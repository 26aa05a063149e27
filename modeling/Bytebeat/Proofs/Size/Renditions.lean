import Mathlib.Order.Bounds.Basic
import Bytebeat.Proofs.Size.Nearest
import Bytebeat.Proofs.Size.Units

namespace Bytebeat.Size
open Binary64

structure Scale.Proper (scale : Scale) : Prop where
  pos : 0 < scale.base
  small : scale.base < 2 ^ 53
  units : 1 < scale.units.length

theorem binary_proper : binary.Proper := ⟨by decide, by decide, by decide⟩

theorem decimal_proper : decimal.Proper := ⟨by decide, by decide, by decide⟩

theorem Scale.Proper.unit_pos {scale : Scale} (proper : scale.Proper) (p : ℕ) : (0 : ℚ) < (scale.base : ℚ) ^ p :=
  pow_pos (Nat.cast_pos.mpr proper.pos) p

/-- A number of hundredths of a unit, the greatest one reached, to which the quotient is taken in two roundings. -/
structure Scale.Prints (scale : Scale) (size n power : ℕ) : Prop where
  unit : IsGreatest {p | p < scale.units.length ∧ scale.base ^ p ≤ size} power
  rounded : ∃ x : ℚ, Nearest values ((size : ℚ) / (scale.base : ℚ) ^ power) x ∧ RoundsEven (100 * x) n

def Scale.PrintsIn (scale : Scale) (size : ℕ) (t : Text) : Prop :=
  ∃ n power, t = hundredths n ++ scale.units.getD power [] ∧ scale.Prints size n power

variable {scale : Scale} {size larger m n p q : ℕ} {b d t : Text} {compact : Bool}

theorem Scale.isGreatest_power (proper : scale.Proper) (pos : 0 < size) :
    IsGreatest {p | p < scale.units.length ∧ scale.base ^ p ≤ size} (scale.power size) := by
  obtain ⟨last, units⟩ : ∃ last, scale.units.length = last + 1 :=
    Nat.exists_eq_succ_of_ne_zero (Nat.ne_of_gt (Nat.zero_lt_of_lt proper.units))
  obtain ⟨reached, le, next⟩ := scale.power_spec pos units
  refine ⟨⟨by omega, reached⟩, ?_⟩
  rintro p ⟨short, other⟩
  apply Nat.le_of_not_lt
  intro less
  have far := Nat.pow_le_pow_right proper.pos (Nat.add_one_le_of_lt less)
  have := next (by omega)
  omega

theorem Scale.printsIn (proper : scale.Proper) (reached : scale.base ≤ size)
    (rendered : scale.render? size = some b) : scale.PrintsIn size b := by
  have unit := scale.isGreatest_power proper (Nat.lt_of_lt_of_le proper.pos reached)
  have some : 1 ≤ scale.power size := unit.2 ⟨proper.units, by rwa [Nat.pow_one]⟩
  simp only [render?] at rendered
  rw [if_neg (by omega), Nat.pow_eq] at rendered
  obtain ⟨x, quotient, rfl⟩ := Option.map_eq_some_iff.mp rendered
  refine ⟨_, _, rfl, unit, x.value, ?_, ?_⟩
  · have near := nearest_ofQuotient? (Nat.pow_pos proper.pos) unit.1.2 quotient
    rwa [Nat.cast_pow] at near
  · exact roundsEven_roundTimes x 100

theorem base_le (reached : plainLimit ≤ size) : binary.base ≤ size ∧ decimal.base ≤ size :=
  ⟨Nat.le_trans (by decide) reached, Nat.le_trans (by decide) reached⟩

theorem label_eq_ok (reached : plainLimit ≤ size) (labelled : label size compact = .ok t) :
    ∃ b d, binary.render? size = some b ∧ decimal.render? size = some d ∧
      t = if compact then b ++ "/" ++ d else b ++ " (" ++ d ++ ")" := by
  have natural : ¬ (size : Int) < 0 := by omega
  have large : ¬ (size : Int) < (plainLimit : Nat) := by omega
  rw [label, if_neg natural, if_neg large, Int.toNat_natCast] at labelled
  cases inBinary : binary.render? size with
  | none =>
      rw [inBinary] at labelled
      cases labelled
  | some b =>
      cases inDecimal : decimal.render? size with
      | none =>
          rw [inBinary, inDecimal] at labelled
          cases labelled
      | some d =>
          rw [inBinary, inDecimal] at labelled
          exact ⟨b, d, rfl, rfl, (Except.ok.inj labelled).symm⟩

theorem label_prints (reached : plainLimit ≤ size) (labelled : label size compact = .ok t) :
    ∃ b d : Text, t = (if compact then b ++ "/" ++ d else b ++ " (" ++ d ++ ")") ∧
      binary.PrintsIn size b ∧ decimal.PrintsIn size d := by
  obtain ⟨b, d, inBinary, inDecimal, same⟩ := label_eq_ok reached labelled
  obtain ⟨baseBinary, baseDecimal⟩ := base_le reached
  exact ⟨b, d, same, binary.printsIn binary_proper baseBinary inBinary,
    decimal.printsIn decimal_proper baseDecimal inDecimal⟩

theorem exists_renditions (reached : plainLimit ≤ size) (small : size.log2 < 1023) :
    ∃ b d : Text, binary.PrintsIn size b ∧ decimal.PrintsIn size d ∧
      ∀ compact, label size compact = .ok (if compact then b ++ "/" ++ d else b ++ " (" ++ d ++ ")") := by
  obtain ⟨b, inBinary⟩ := Option.isSome_iff_exists.mp (Scale.render?_isSome small binary)
  obtain ⟨d, inDecimal⟩ := Option.isSome_iff_exists.mp (Scale.render?_isSome small decimal)
  obtain ⟨baseBinary, baseDecimal⟩ := base_le reached
  refine ⟨b, d, binary.printsIn binary_proper baseBinary inBinary,
    decimal.printsIn decimal_proper baseDecimal inDecimal, fun compact => ?_⟩
  obtain ⟨t, labelled⟩ := exists_label small compact
  obtain ⟨b', d', inBinary', inDecimal', rfl⟩ := label_eq_ok reached labelled
  cases inBinary.symm.trans inBinary'
  cases inDecimal.symm.trans inDecimal'
  exact labelled

/-! ## The order of what is shown -/

theorem Scale.Prints.ge_unit (prints : scale.Prints size n p) (proper : scale.Proper) : 100 ≤ n := by
  obtain ⟨x, near, rounds⟩ := prints.rounded
  have one : ((1 : ℕ) : ℚ) ≤ x := by
    apply near.ge_of_mem (natCast_mem_values (by decide))
    rw [Nat.cast_one, one_le_div (proper.unit_pos p)]
    exact_mod_cast prints.unit.1.2
  rw [Nat.cast_one] at one
  apply (roundsEven_natCast 100).mono rounds
  push_cast
  linarith

theorem Scale.Prints.lt_next (prints : scale.Prints size n p) (next : p + 1 < scale.units.length) :
    size < scale.base ^ (p + 1) := by
  apply Nat.lt_of_not_le
  intro reached
  have := prints.unit.2 ⟨next, reached⟩
  omega

theorem Scale.Prints.le_next (prints : scale.Prints size n p) (proper : scale.Proper)
    (next : p + 1 < scale.units.length) : n ≤ 100 * scale.base := by
  obtain ⟨x, near, rounds⟩ := prints.rounded
  have short := prints.lt_next next
  have base : x ≤ scale.base := by
    apply near.le_of_mem (natCast_mem_values proper.small)
    rw [div_le_iff₀ (proper.unit_pos p), mul_comm, ← pow_succ]
    exact_mod_cast short.le
  apply rounds.mono (roundsEven_natCast (100 * scale.base))
  push_cast
  linarith

theorem Scale.Prints.mono (prints : scale.Prints size m p) (prints' : scale.Prints larger n q) (proper : scale.Proper)
    (less : size < larger) : m * scale.base ^ p ≤ n * scale.base ^ q := by
  have le : p ≤ q := prints'.unit.2 ⟨prints.unit.1.1, prints.unit.1.2.trans less.le⟩
  rcases Nat.lt_or_eq_of_le le with below | rfl
  · -- All of the next unit is not more than what stands in that unit or a later one.
    have bound := prints.le_next proper (by have := prints'.unit.1.1; omega)
    calc m * scale.base ^ p
        ≤ 100 * scale.base * scale.base ^ p := Nat.mul_le_mul_right _ bound
      _ = 100 * scale.base ^ (p + 1) := by rw [Nat.pow_succ, Nat.mul_assoc, Nat.mul_comm scale.base]
      _ ≤ 100 * scale.base ^ q := Nat.mul_le_mul_left 100 (Nat.pow_le_pow_right proper.pos below)
      _ ≤ n * scale.base ^ q := Nat.mul_le_mul_right _ (prints'.ge_unit proper)
  · obtain ⟨x, near, rounds⟩ := prints.rounded
    obtain ⟨y, near', rounds'⟩ := prints'.rounded
    have quotients := near.le_of_lt near' (div_lt_div_of_pos_right (Nat.cast_lt.mpr less) (proper.unit_pos p))
    exact Nat.mul_le_mul_right _ (rounds.mono rounds' (by linarith))

end Bytebeat.Size
