import Mathlib.Algebra.Order.Field.Power
import Mathlib.Data.Rat.Cast.Order
import Mathlib.Tactic.Linarith
import Mathlib.Tactic.Positivity
import Mathlib.Tactic.FieldSimp
import Mathlib.Tactic.Ring
import Bytebeat.Proofs.Size.Rounding

/-!
Rounding in terms of the numbers themselves.

A quotient goes to a floating-point number with no other one nearer to it (`nearest_ofQuotient?`), and a floating-point
number to a whole number at most a half away, to the even one if there are two (`roundsEven_roundTimes`). Both keep the
order of what they round (`Nearest.le_of_lt`, `RoundsEven.mono`), so neither the exponents nor the places kept are
needed for that.
-/

namespace Bytebeat

/-- A number of a set with no other one of it nearer to a given number. -/
structure Nearest (S : Set ℚ) (q r : ℚ) : Prop where
  mem : r ∈ S
  least : ∀ s ∈ S, |r - q| ≤ |s - q|

/-- A whole number at most a half away from a given number, and an even one if it is a half. -/
structure RoundsEven (q : ℚ) (n : ℕ) : Prop where
  near : |(n : ℚ) - q| ≤ 1 / 2
  even : |(n : ℚ) - q| = 1 / 2 → n % 2 = 0

section Order

variable {S : Set ℚ} {q q' r r' s : ℚ} {m n : ℕ}

theorem Nearest.le_of_lt (near : Nearest S q r) (near' : Nearest S q' r') (lt : q < q') : r ≤ r' := by
  by_contra below
  rw [not_le] at below
  -- Each of the two numbers is on its own side of the middle between what they go to.
  have first := sq_le_sq.mpr (near.least r' near'.mem)
  have second := sq_le_sq.mpr (near'.least r near.mem)
  have high : 0 ≤ (r - r') * (2 * q - (r + r')) := by linarith
  have low : 0 ≤ (r - r') * (r + r' - 2 * q') := by linarith
  have gap : 0 < r - r' := sub_pos.mpr below
  have := nonneg_of_mul_nonneg_right high gap
  have := nonneg_of_mul_nonneg_right low gap
  linarith

theorem Nearest.le_of_mem (near : Nearest S q r) (mem : s ∈ S) (le : q ≤ s) : r ≤ s := by
  have closer := near.least s mem
  rw [abs_of_nonneg (sub_nonneg.mpr le)] at closer
  linarith [le_abs_self (r - q)]

theorem Nearest.ge_of_mem (near : Nearest S q r) (mem : s ∈ S) (le : s ≤ q) : s ≤ r := by
  have closer := near.least s mem
  rw [abs_of_nonpos (sub_nonpos.mpr le)] at closer
  linarith [neg_abs_le (r - q)]

theorem Nearest.eq_of_mem (near : Nearest S q r) (mem : q ∈ S) : r = q :=
  le_antisymm (near.le_of_mem mem le_rfl) (near.ge_of_mem mem le_rfl)

theorem RoundsEven.mono (rounds : RoundsEven q m) (rounds' : RoundsEven q' n) (le : q ≤ q') : m ≤ n := by
  by_contra below
  have near := abs_le.mp rounds.near
  have near' := abs_le.mp rounds'.near
  have step : (n : ℚ) + 1 ≤ m := by exact_mod_cast Nat.lt_of_not_le below
  -- Both are a half away, one above and one below, so both would be even.
  have above : (m : ℚ) - q = 1 / 2 := by linarith
  have under : (n : ℚ) - q' = -(1 / 2) := by linarith
  have even := rounds.even (by rw [above, abs_of_pos one_half_pos])
  have even' := rounds'.even (by rw [under, abs_neg, abs_of_pos one_half_pos])
  have : (m : ℚ) = n + 1 := by linarith
  have : m = n + 1 := by exact_mod_cast this
  omega

theorem roundsEven_natCast (n : ℕ) : RoundsEven n n := by
  constructor
  · norm_num
  · norm_num

theorem RoundsEven.least (rounds : RoundsEven q n) (k : ℕ) : |(n : ℚ) - q| ≤ |(k : ℚ) - q| := by
  rcases eq_or_ne k n with rfl | other
  · exact le_rfl
  · have apart : (1 : ℚ) ≤ |(k : ℚ) - n| := by
      have : (1 : ℤ) ≤ |(k : ℤ) - n| := Int.one_le_abs (by omega)
      exact_mod_cast this
    have := abs_sub_le (k : ℚ) q n
    rw [abs_sub_comm q] at this
    linarith [rounds.near]

end Order

theorem roundsEven_roundDiv (num : ℕ) {den : ℕ} (pos : 0 < den) :
    RoundsEven ((num : ℚ) / den) (roundDiv num den) := by
  obtain ⟨q, r, rfl, rounded⟩ := roundDiv_cases num pos
  have positive : (0 : ℚ) < den := by exact_mod_cast pos
  have quotient : ((q * den + r : ℕ) : ℚ) / den = q + (r : ℚ) / den := by
    push_cast
    field_simp
  have natural : 0 ≤ (r : ℚ) / den := by positivity
  rw [quotient]
  generalize part : (r : ℚ) / den = t at natural ⊢
  rw [div_eq_iff positive.ne'] at part
  rcases rounded with ⟨low, same⟩ | ⟨high, small, same⟩ | ⟨tie, same⟩
  · have below : t < 1 / 2 := by
      have : (2 : ℚ) * r < den := by exact_mod_cast low
      nlinarith
    have off : |((roundDiv (q * den + r) den : ℕ) : ℚ) - (q + t)| = t := by
      rw [same, sub_add_cancel_left, abs_neg, abs_of_nonneg natural]
    exact ⟨off.trans_le below.le, fun half => absurd (off.symm.trans half) below.ne⟩
  · have above : 1 / 2 < t := by
      have : (den : ℚ) < 2 * r := by exact_mod_cast high
      nlinarith
    have part_lt : t < 1 := by
      have : (r : ℚ) < den := by exact_mod_cast small
      nlinarith
    have off : |((roundDiv (q * den + r) den : ℕ) : ℚ) - (q + t)| = 1 - t := by
      rw [same, Nat.cast_add_one, add_sub_add_left_eq_sub, abs_of_pos (sub_pos.mpr part_lt)]
    exact ⟨by linarith, fun half => by linarith⟩
  · have half : t = 1 / 2 := by
      have : (2 : ℚ) * r = den := by exact_mod_cast tie
      nlinarith
    refine ⟨?_, fun _ => by omega⟩
    rw [same, half]
    rcases Nat.mod_two_eq_zero_or_one q with even | odd
    · rw [even, Nat.add_zero, sub_add_cancel_left, abs_neg, abs_of_pos one_half_pos]
    · rw [odd, Nat.cast_add_one, add_sub_add_left_eq_sub]
      norm_num

namespace Binary64

def value (x : Binary64) : ℚ := x.mantissa * 2 ^ x.exponent

def values : Set ℚ := {q | ∃ (m : ℕ) (e : ℤ), m < 2 ^ 53 ∧ -1074 ≤ e ∧ e ≤ 971 ∧ q = m * 2 ^ e}

variable {num den r : ℕ} {e : ℤ} {x : Binary64}

theorem natCast_mem_values {n : ℕ} (small : n < 2 ^ 53) : (n : ℚ) ∈ values :=
  ⟨n, 0, small, by omega, by omega, by rw [zpow_zero, mul_one]⟩

theorem roundsEven_roundScaled (num : ℕ) (pos : 0 < den) (e : ℤ) :
    RoundsEven ((num : ℚ) / den / 2 ^ e) (roundScaled num den e) := by
  unfold roundScaled
  split
  · rename_i natural
    obtain ⟨k, rfl⟩ := Int.eq_ofNat_of_zero_le natural
    have scaled := roundsEven_roundDiv num (Nat.mul_pos pos (Nat.two_pow_pos k))
    rw [Int.toNat_natCast, Nat.shiftLeft_eq, zpow_natCast, div_div]
    exact_mod_cast scaled
  · rename_i negative
    obtain ⟨k, rfl⟩ : ∃ k : ℕ, e = -k := ⟨(-e).toNat, by omega⟩
    have scaled := roundsEven_roundDiv (num * 2 ^ k) pos
    rw [neg_neg, Int.toNat_natCast, Nat.shiftLeft_eq, zpow_neg, zpow_natCast, div_inv_eq_mul, div_mul_eq_mul_div]
    exact_mod_cast scaled

theorem ofQuotient?_eq_some (nonzero : num ≠ 0) (rounded : ofQuotient? num den = some x) :
    x = ⟨roundScaled num den (exponentOf num den), exponentOf num den⟩ ∧ exponentOf num den ≤ 971 ∧
      (exponentOf num den = 971 → roundScaled num den (exponentOf num den) < 2 ^ 53) := by
  unfold ofQuotient? at rounded
  rw [if_neg nonzero] at rounded
  simp only [Nat.shiftLeft_eq, Bool.or_eq_true, Bool.and_eq_true, decide_eq_true_eq] at rounded
  split at rounded
  · cases rounded
  · rename_i fits
    rw [not_or, not_and, not_lt, not_le, Nat.one_mul] at fits
    exact ⟨(Option.some.inj rounded).symm, fits⟩

theorem roundsEven_roundTimes (x : Binary64) (scale : ℕ) : RoundsEven (scale * x.value) (x.roundTimes scale) := by
  obtain ⟨m, e⟩ := x
  simp only [roundTimes, value]
  split
  · rename_i natural
    obtain ⟨k, rfl⟩ := Int.eq_ofNat_of_zero_le natural
    have exact := roundsEven_natCast (m * scale * 2 ^ k)
    rw [Int.toNat_natCast, Nat.shiftLeft_eq, zpow_natCast, ← mul_assoc, mul_comm (scale : ℚ)]
    exact_mod_cast exact
  · rename_i negative
    obtain ⟨k, rfl⟩ : ∃ k : ℕ, e = -k := ⟨(-e).toNat, by omega⟩
    have rounds := roundsEven_roundDiv (m * scale) (Nat.two_pow_pos k)
    rw [neg_neg, Int.toNat_natCast, Nat.shiftLeft_eq, Nat.one_mul, zpow_neg, zpow_natCast, ← mul_assoc,
      mul_comm (scale : ℚ), ← div_eq_mul_inv]
    exact_mod_cast rounds

theorem roundScaled_least (num : ℕ) (pos : 0 < den) (e : ℤ) (k : ℕ) :
    |(roundScaled num den e : ℚ) * 2 ^ e - num / den| ≤ |(k : ℚ) * 2 ^ e - num / den| := by
  have unit : (0 : ℚ) < 2 ^ e := by positivity
  have scaled (j : ℚ) : |j * 2 ^ e - num / den| = |j - num / den / 2 ^ e| * 2 ^ e := by
    rw [← abs_of_pos unit, ← abs_mul, abs_of_pos unit, sub_mul, div_mul_cancel₀ _ unit.ne']
  rw [scaled, scaled]
  exact mul_le_mul_of_nonneg_right ((roundsEven_roundScaled num pos e).least k) unit.le

theorem mul_two_zpow_mem_values {m : ℕ} (least : -1074 ≤ e) (le : e ≤ 971) (small : m ≤ 2 ^ 53)
    (fits : e = 971 → m < 2 ^ 53) : (m : ℚ) * 2 ^ e ∈ values := by
  rcases Nat.lt_or_eq_of_le small with less | rfl
  · exact ⟨m, e, less, least, le, rfl⟩
  · have : e ≠ 971 := fun last => (fits last).false
    refine ⟨2 ^ 52, e + 1, by norm_num, by omega, by omega, ?_⟩
    rw [zpow_add_one₀ two_ne_zero]
    push_cast
    ring

theorem Reaches.bounds (reaches : Reaches num den r) (pos : 0 < den) (exponent : e = (r : ℤ) - 52) :
    2 ^ 52 * 2 ^ e ≤ (num : ℚ) / den ∧ (num : ℚ) / den < 2 ^ 53 * 2 ^ e := by
  have positive : (0 : ℚ) < den := by exact_mod_cast pos
  have power (k : ℕ) : (2 : ℚ) ^ (52 + k) * 2 ^ e = 2 ^ (r + k) := by
    rw [← zpow_natCast, ← zpow_natCast, ← zpow_add₀ two_ne_zero, exponent]
    congr 1
    push_cast
    ring
  have low := power 0
  have high := power 1
  rw [le_div_iff₀ positive, div_lt_iff₀ positive, low, high, mul_comm, mul_comm ((2 : ℚ) ^ _)]
  exact ⟨by exact_mod_cast reaches.le, by exact_mod_cast reaches.lt⟩

theorem mul_two_zpow_le_of_lt {k : ℕ} {f : ℤ} (short : k < 2 ^ 53) (lt : f < e) :
    (k : ℚ) * 2 ^ f ≤ 2 ^ 52 * 2 ^ e :=
  calc (k : ℚ) * 2 ^ f
      ≤ 2 ^ 53 * 2 ^ f := mul_le_mul_of_nonneg_right (by exact_mod_cast short.le) (by positivity)
    _ = 2 ^ 52 * 2 ^ (f + 1) := by rw [zpow_add_one₀ two_ne_zero]; ring
    _ ≤ 2 ^ 52 * 2 ^ e := mul_le_mul_of_nonneg_left (zpow_le_zpow_right₀ one_le_two lt) (by positivity)

theorem nearest_ofQuotient? (pos : 0 < den) (le : den ≤ num) (rounded : ofQuotient? num den = some x) :
    Nearest values ((num : ℚ) / den) x.value := by
  obtain ⟨r, reaches, exponent⟩ := exists_reaches pos le
  obtain ⟨rfl, small, fits⟩ := ofQuotient?_eq_some (by omega) rounded
  obtain ⟨low, high⟩ := reaches.bounds pos exponent
  have nearest := roundScaled_least num pos (exponentOf num den)
  have rounds := roundsEven_roundScaled num pos (exponentOf num den)
  generalize exponentOf num den = e at *
  have unit : (0 : ℚ) < 2 ^ e := by positivity
  have least : -1074 ≤ e := by omega
  constructor
  · refine mul_two_zpow_mem_values least small ?_ fits
    refine rounds.mono (roundsEven_natCast (2 ^ 53)) ?_
    rw [div_le_iff₀ unit, Nat.cast_pow, Nat.cast_ofNat]
    exact high.le
  · rintro s ⟨k, f, short, -, -, rfl⟩
    show |(roundScaled num den e : ℚ) * 2 ^ e - num / den| ≤ _
    by_cases coarse : e ≤ f
    · obtain ⟨t, rfl⟩ := Int.le.dest coarse
      have multiple : (k : ℚ) * 2 ^ (e + t) = (k * 2 ^ t : ℕ) * 2 ^ e := by
        rw [zpow_add₀ two_ne_zero, zpow_natCast]
        push_cast
        ring
      rw [multiple]
      exact nearest _
    · -- On a finer grid the values stay below the least one with a full mantissa, and so below the quotient.
      have finer := mul_two_zpow_le_of_lt short (not_le.mp coarse)
      have corner := nearest (2 ^ 52)
      rw [Nat.cast_pow, Nat.cast_ofNat, abs_of_nonpos (sub_nonpos.mpr low)] at corner
      rw [abs_of_nonpos (sub_nonpos.mpr (finer.trans low))]
      linarith

theorem abs_sub_le_of_nearest {r : ℚ} {k n : ℕ} (near : Nearest values ((num : ℚ) / den) r) (pos : 0 < den)
    (le : num ≤ n * den) (places : k ≤ 1074) (fits : n * 2 ^ k < 2 ^ 53) : |r - num / den| ≤ 1 / 2 / 2 ^ k := by
  have positive : (0 : ℚ) < den := by exact_mod_cast pos
  have unit : (2 : ℚ) ^ (-k : ℤ) = 1 / 2 ^ k := by rw [zpow_neg, zpow_natCast, one_div]
  have rounds := roundsEven_roundScaled num pos (-k)
  rw [unit, div_div_eq_mul_div, div_one] at rounds
  have bound : roundScaled num den (-k) ≤ n * 2 ^ k := by
    apply rounds.mono (roundsEven_natCast (n * 2 ^ k))
    push_cast
    apply mul_le_mul_of_nonneg_right _ (by positivity)
    rw [div_le_iff₀ positive]
    exact_mod_cast le
  refine (near.least _ ⟨_, -k, bound.trans_lt fits, by omega, by omega, rfl⟩).trans ?_
  have two : (0 : ℚ) < 2 ^ k := by positivity
  have scaled : (roundScaled num den (-k) : ℚ) * 2 ^ (-k : ℤ) - num / den =
      (roundScaled num den (-k) - num / den * 2 ^ k) / 2 ^ k := by
    rw [unit]
    field_simp
  rw [scaled, abs_div, abs_of_pos two]
  exact div_le_div_of_nonneg_right rounds.near two.le

end Binary64
end Bytebeat
