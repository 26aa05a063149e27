import Bytebeat.Proofs.Size.Renditions

namespace Bytebeat.Size
open Binary64

variable {size n p : ℕ}

theorem div_1024_mem_values (small : size < 2 ^ 53) (short : p ≤ 4) : (size : ℚ) / 1024 ^ p ∈ values := by
  refine ⟨size, -(10 * p : ℕ), small, by omega, by omega, ?_⟩
  rw [zpow_neg, zpow_natCast, pow_mul, div_eq_mul_inv]
  norm_num

theorem Scale.Prints.binary_exact (prints : binary.Prints size n p) (small : size < 2 ^ 53) :
    RoundsEven (100 * ((size : ℚ) / 1024 ^ p)) n := by
  obtain ⟨x, near, rounds⟩ := prints.rounded
  have short : p ≤ 4 := Nat.le_of_lt_succ prints.unit.1.1
  have exact : x = (size : ℚ) / 1024 ^ p := near.eq_of_mem (div_1024_mem_values small short)
  rwa [exact] at rounds

theorem Scale.Prints.le_mul_unit (prints : decimal.Prints size n p) (small : size < 2 ^ 53) :
    size ≤ 9008 * 1000 ^ p := by
  rcases Nat.lt_or_eq_of_le (Nat.le_of_lt_succ prints.unit.1.1 : p ≤ 4) with less | rfl
  · have short := prints.lt_next (Nat.succ_lt_succ less)
    calc size
        ≤ 1000 ^ p * 1000 := short.le
      _ ≤ 9008 * 1000 ^ p := by omega
  · omega

theorem Scale.Prints.decimal_close (prints : decimal.Prints size n p) (small : size < 2 ^ 53) :
    |(n : ℚ) / 100 - size / 1000 ^ p| ≤ 0.005 + 10 ^ (-11 : ℤ) := by
  obtain ⟨x, near, rounds⟩ := prints.rounded
  have near : Nearest values ((size : ℚ) / (1000 ^ p : ℕ)) x := by
    rwa [Nat.cast_pow]
  have first := abs_sub_le_of_nearest (k := 39) near (Nat.pow_pos (by decide)) (prints.le_mul_unit small) (by decide)
    (by decide)
  rw [Nat.cast_pow, Nat.cast_ofNat] at first
  have second : |(n : ℚ) / 100 - x| ≤ 0.005 := by
    have hundredth : (n : ℚ) / 100 - x = (n - 100 * x) / 100 := by ring
    rw [hundredth, abs_div, abs_of_pos (by norm_num : (0 : ℚ) < 100)]
    linarith [rounds.near]
  have last : (1 / 2 / 2 ^ 39 : ℚ) ≤ 10 ^ (-11 : ℤ) := by norm_num
  calc |(n : ℚ) / 100 - size / 1000 ^ p|
      ≤ |(n : ℚ) / 100 - x| + |x - size / 1000 ^ p| := abs_sub_le _ _ _
    _ ≤ 0.005 + 10 ^ (-11 : ℤ) := add_le_add second (first.trans last)

theorem isGreatest_power_iff {scale : Scale} (five : scale.units.length = 5) :
    IsGreatest {p | p < scale.units.length ∧ scale.base ^ p ≤ size} p ↔
      IsGreatest {p | p ≤ 4 ∧ scale.base ^ p ≤ size} p := by
  simp only [five, Nat.lt_succ_iff]

/--
Each rendition names the greatest power that the size reaches. In powers of 1024 the quotient itself is rounded, half
to even; in powers of 1000 the error is hardly more than that of one rounding.
-/
theorem label_accurate (reached : plainLimit ≤ size) (small : size < 2 ^ 53) :
    ∃ (p q m n : ℕ) (b d : Text),
      IsGreatest {p | p ≤ 4 ∧ 1024 ^ p ≤ size} p ∧ b = hundredths m ++ binary.units.getD p [] ∧
      RoundsEven (100 * ((size : ℚ) / 1024 ^ p)) m ∧
      IsGreatest {q | q ≤ 4 ∧ 1000 ^ q ≤ size} q ∧ d = hundredths n ++ decimal.units.getD q [] ∧
      |(n : ℚ) / 100 - size / 1000 ^ q| ≤ 0.005 + 10 ^ (-11 : ℤ) ∧
      ∀ compact, label size compact = .ok (if compact then b ++ "/" ++ d else b ++ " (" ++ d ++ ")") := by
  have short : size.log2 < 1023 := by
    have pos : 0 < size := Nat.lt_of_lt_of_le (by decide) reached
    rw [Nat.log2_lt (Nat.ne_of_gt pos)]
    exact small.trans (by decide +kernel)
  obtain ⟨b, d, ⟨m, p, inBinary, prints⟩, ⟨n, q, inDecimal, prints'⟩, labelled⟩ := exists_renditions reached short
  exact ⟨p, q, m, n, b, d,
    (isGreatest_power_iff rfl).mp prints.unit, inBinary, prints.binary_exact small,
    (isGreatest_power_iff rfl).mp prints'.unit, inDecimal, prints'.decimal_close small, labelled⟩

theorem label_accurate_half : plainLimit ≤ 2125 ∧ 2125 < 2 ^ 53 ∧ ∃ (p q m n : ℕ) (b d : Text),
    RoundsEven (100 * (2125 / 1024 ^ p)) m ∧ |(n : ℚ) / 100 - 2125 / 1000 ^ q| ≤ 0.005 + 10 ^ (-11 : ℤ) ∧
      label 2125 = .ok (b ++ " (" ++ d ++ ")") := by
  have reached : plainLimit ≤ 2125 := by decide
  have small : 2125 < 2 ^ 53 := by decide
  obtain ⟨p, q, m, n, b, d, -, -, rounds, -, -, close, labelled⟩ := label_accurate reached small
  exact ⟨reached, small, p, q, m, n, b, d, rounds, close, labelled false⟩

example : label 2125 = .ok "2.08KiB (2.12KB)" ∧ label 2375 = .ok "2.32KiB (2.38KB)" := ⟨rfl, rfl⟩

end Bytebeat.Size
