import Bytebeat.Proofs.Size.Label
import Bytebeat.Proofs.Size.Rounding

/-!
Which numbers a label shows in front of its units.

A size stands in the greatest unit that it reaches (`Scale.power_spec`), before anything is rounded. So the number in
front of the unit is one at least, and it is all of the next unit exactly for the sizes that lie less than half a
hundredth below that (`label_shows`). The quotient is exact in powers of two (`full_binary_iff`). In powers of ten it
is not, but the error is less than what lies between two sizes (`full_decimal_iff`).
-/

namespace Bytebeat.Size
open Binary64

/-! ## The unit of a size -/

theorem climb_spec {base size power : Nat} (above : List Text) (reached : base ^ power ≤ size) :
    base ^ climb base size power above ≤ size ∧ climb base size power above ≤ power + above.length ∧
      (climb base size power above < power + above.length → size < base ^ (climb base size power above + 1)) := by
  induction above generalizing power with
  | nil => exact ⟨reached, Nat.le_refl _, fun less => absurd less (Nat.lt_irrefl _)⟩
  | cons name above ih =>
      rw [climb, List.length_cons, Nat.pow_eq]
      split
      · next goesOn =>
          obtain ⟨le, last, next⟩ := ih goesOn
          rw [Nat.add_right_comm] at last next
          exact ⟨le, last, next⟩
      · next stops => exact ⟨reached, Nat.le_add_right _ _, fun _ => Nat.lt_of_not_le stops⟩

theorem Scale.power_spec (scale : Scale) {size last : Nat} (pos : 0 < size) (units : scale.units.length = last + 1) :
    scale.base ^ scale.power size ≤ size ∧ scale.power size ≤ last ∧
      (scale.power size < last → size < scale.base ^ (scale.power size + 1)) := by
  have above : scale.units.tail.length = last := by
    rw [List.length_tail, units, Nat.add_sub_cancel]
  have start : scale.base ^ 0 ≤ size := pos
  have spec := climb_spec scale.units.tail start
  rwa [above, Nat.zero_add] at spec

/-! ## The number in front of a unit -/

def shown (size unit k : Nat) : Nat := roundDiv (roundDiv (size * 2 ^ k) unit * 100) (2 ^ k)

/-- A number of hundredths of a unit for a size that reaches this unit and not the next one. -/
structure Scale.Shows (scale : Scale) (size n power : Nat) : Prop where
  reached : scale.base ^ power ≤ size
  next : size < scale.base ^ (power + 1)
  least : 100 ≤ n
  most : n ≤ 100 * scale.base
  /-- It is all of the next unit exactly from half a hundredth below that on. -/
  full : n = 100 * scale.base ↔ (200 * scale.base - 1) * scale.base ^ power ≤ 200 * size

variable {scale : Scale} {size unit k r p : Nat}

theorem le_shown (le : unit ≤ size) (pos : 0 < unit) (places : 0 < k) : 100 ≤ shown size unit k := by
  have two : 0 < 2 ^ k := Nat.two_pow_pos k
  have even : 2 ^ k % 2 = 0 := by
    rw [Nat.two_pow_mod_two_eq_zero]
    exact places
  have one : 2 ^ k ≤ roundDiv (size * 2 ^ k) unit := by
    rw [le_roundDiv_iff pos even, Nat.mul_comm (2 ^ k)]
    have := Nat.mul_le_mul_right (2 ^ k) le
    omega
  rw [shown, le_roundDiv_iff two (by decide)]
  omega

theorem shown_le {n : Nat} (le : size ≤ n * unit) (pos : 0 < unit) : shown size unit k ≤ 100 * n := by
  apply roundDiv_le (Nat.two_pow_pos k)
  have : roundDiv (size * 2 ^ k) unit ≤ n * 2 ^ k := by
    apply roundDiv_le pos
    rw [Nat.mul_right_comm]
    exact Nat.mul_le_mul_right _ le
  rw [Nat.mul_assoc, Nat.mul_comm]
  exact Nat.mul_le_mul_left 100 this

theorem le_shown_iff (n : Nat) : 100 * n ≤ shown size unit k ↔
    (200 * n - 1) * 2 ^ k ≤ 200 * roundDiv (size * 2 ^ k) unit := by
  rw [shown, le_roundDiv_iff (Nat.two_pow_pos k) (by omega), Nat.sub_mul, Nat.mul_assoc, Nat.mul_assoc]
  omega

theorem full_binary_iff (exact : 10 * p ≤ k) :
    204799 * 2 ^ k ≤ 200 * roundDiv (size * 2 ^ k) (1024 ^ p) ↔ 204799 * 1024 ^ p ≤ 200 * size := by
  have unit : 1024 ^ p = 2 ^ (10 * p) := (Nat.pow_mul 2 10 p).symm
  have split : 2 ^ k = 2 ^ (10 * p) * 2 ^ (k - 10 * p) := by
    rw [← Nat.pow_add, Nat.add_sub_cancel' exact]
  have quotient : roundDiv (size * 2 ^ k) (1024 ^ p) = size * 2 ^ (k - 10 * p) := by
    rw [unit, split, ← Nat.mul_assoc, Nat.mul_right_comm, roundDiv_mul _ (Nat.two_pow_pos _)]
  rw [quotient, split, unit, ← Nat.mul_assoc, ← Nat.mul_assoc, Nat.mul_le_mul_right_iff (Nat.two_pow_pos _)]

theorem Reaches.lt_of_lt {b : Nat} (reaches : Reaches size unit r) (next : size < unit * 2 ^ b) : r < b := by
  have between := Nat.lt_of_mul_lt_mul_left (Nat.lt_of_le_of_lt reaches.le next)
  exact (Nat.pow_lt_pow_iff_right (by decide)).mp between

theorem full_decimal_iff (reaches : Reaches size unit r) (places : k + r = 52) (next : size < unit * 1000)
    (grid : 200 ∣ unit) (small : unit ≤ 1000 ^ 4) :
    199999 * 2 ^ k ≤ 200 * roundDiv (size * 2 ^ k) unit ↔ 199999 * unit ≤ 200 * size := by
  have pos : 0 < unit := by omega
  have low : r < 10 := Reaches.lt_of_lt reaches (Nat.lt_of_lt_of_le next (Nat.mul_le_mul_left unit (by decide)))
  obtain ⟨below, above⟩ := roundDiv_bounds (size * 2 ^ k) pos
  generalize roundDiv (size * 2 ^ k) unit = m at below above ⊢
  constructor
  · intro shown
    apply Nat.le_of_not_lt
    intro short
    -- The size is a whole byte short, which is more than half a place of the mantissa.
    obtain ⟨u, rfl⟩ := grid
    have byte := Nat.mul_le_mul_right (2 ^ k) (show size + 1 ≤ 199999 * u by omega)
    have scaled := Nat.mul_le_mul_right u shown
    have place : 2 ^ 43 ≤ 2 ^ k := Nat.pow_le_pow_right (by decide) (by omega)
    have bytes : u ≤ 5000000000 := by omega
    rw [Nat.add_one_mul, Nat.mul_assoc, Nat.mul_comm u] at byte
    rw [Nat.mul_assoc, Nat.mul_assoc] at scaled
    rw [Nat.mul_left_comm m] at below
    omega
  · intro full
    have high : 9 ≤ r := reaches.le_of_le (by omega)
    obtain ⟨rfl, rfl⟩ : r = 9 ∧ k = 43 := by omega
    -- The mantissa is a whole number, and none lies between half a place below and the number itself.
    have : 199999 * 2 ^ 43 - 100 ≤ 200 * m := by
      apply Nat.le_of_mul_le_mul_right _ pos
      rw [Nat.sub_mul, Nat.mul_assoc 200]
      omega
    omega

/-! ## Renditions -/

structure Scale.Stands (scale : Scale) (size power k : Nat) : Prop where
  reached : scale.base ^ power ≤ size
  next : size < scale.base ^ (power + 1)
  bounds : 1 ≤ power ∧ power ≤ 4
  places : 43 ≤ k
  mantissa : ∃ r, Reaches size (scale.base ^ power) r ∧ k + r = 52

theorem Scale.exists_stands (scale : Scale) (units : scale.units.length = 5) (base : 0 < scale.base)
    (small : scale.base ≤ 1024) (reached : scale.base ≤ size) (short : size < scale.base ^ 5) :
    ∃ k, scale.Stands size (scale.power size) k := by
  have positive : 0 < size := by omega
  obtain ⟨le, last, next⟩ := scale.power_spec positive units
  generalize scale.power size = p at le last next ⊢
  have lt : size < scale.base ^ (p + 1) := by
    rcases Nat.lt_or_eq_of_le last with less | rfl
    · exact next less
    · exact short
  have some : 1 ≤ p := by
    cases p with
    | zero => exact absurd (by simpa using lt) (Nat.not_lt.mpr reached)
    | succ p => omega
  have pos : 0 < scale.base ^ p := Nat.pow_pos base
  obtain ⟨r, reaches, -⟩ := exists_reaches pos le
  have low : r < 10 := by
    apply Reaches.lt_of_lt reaches
    rw [Nat.pow_succ] at lt
    exact Nat.lt_of_lt_of_le lt (Nat.mul_le_mul_left _ small)
  exact ⟨52 - r, le, lt, ⟨some, last⟩, by omega, r, reaches, by omega⟩

def Scale.ShowsIn (scale : Scale) (size : Nat) (t : Text) : Prop :=
  ∃ n power, t = hundredths n ++ scale.units.getD power [] ∧ scale.Shows size n power

theorem Scale.exists_render (stands : scale.Stands size (scale.power size) k) (base : 0 < scale.base)
    (full : (200 * scale.base - 1) * 2 ^ k ≤ 200 * roundDiv (size * 2 ^ k) (scale.base ^ scale.power size) ↔
      (200 * scale.base - 1) * scale.base ^ scale.power size ≤ 200 * size) :
    ∃ t, scale.render? size = some t ∧ scale.ShowsIn size t := by
  obtain ⟨reached, next, ⟨some, last⟩, places, r, reaches, total⟩ := stands
  have pos : 0 < scale.base ^ scale.power size := Nat.pow_pos base
  have most : shown size (scale.base ^ scale.power size) k ≤ 100 * scale.base := by
    apply shown_le _ pos
    rw [Nat.mul_comm, ← Nat.pow_succ]
    exact Nat.le_of_lt next
  refine ⟨_, ?_, shown size (scale.base ^ scale.power size) k, scale.power size, rfl, reached, next,
    le_shown reached pos (by omega), most, ?_⟩
  · simp only [render?]
    rw [if_neg (by omega), Nat.pow_eq, ofQuotient?_eq pos reaches total (by omega)]
    simp only [Option.map_some, roundTimes_eq _ _ (show 0 < k by omega)]
    rfl
  · rw [← full, ← le_shown_iff]
    omega

theorem exists_binary (reached : plainLimit ≤ size) (short : size < 1024 ^ 5) :
    ∃ t, binary.render? size = some t ∧ binary.ShowsIn size t := by
  have base : binary.base ≤ size := Nat.le_trans (by decide) reached
  obtain ⟨k, stands⟩ := binary.exists_stands rfl (by decide) (by decide) base short
  have := stands.bounds
  have := stands.places
  exact Scale.exists_render stands (by decide) (full_binary_iff (by omega))

theorem exists_decimal (reached : plainLimit ≤ size) (short : size < 1000 ^ 5) :
    ∃ t, decimal.render? size = some t ∧ decimal.ShowsIn size t := by
  have base : decimal.base ≤ size := Nat.le_trans (by decide) reached
  obtain ⟨k, stands⟩ := decimal.exists_stands rfl (by decide) (by decide) base short
  obtain ⟨some, last⟩ := stands.bounds
  obtain ⟨r, reaches, total⟩ := stands.mantissa
  refine Scale.exists_render stands (by decide) (full_decimal_iff reaches total stands.next ?_ ?_)
  · exact Nat.dvd_trans (by decide) (Nat.pow_dvd_pow 1000 some)
  · exact Nat.pow_le_pow_right (by decide) last

/-- Both renditions show at least one unit, and as much as the next unit only from half a hundredth below it on. -/
theorem label_shows (compact : Bool) (reached : plainLimit ≤ size) (short : size < 1024 ^ 5) :
    ∃ b d, label size compact = .ok (if compact then b ++ "/" ++ d else b ++ " (" ++ d ++ ")") ∧
      binary.ShowsIn size b ∧ (size < 1000 ^ 5 → decimal.ShowsIn size d) := by
  have small : size.log2 < 1023 := by
    have pos : 0 < size := Nat.lt_of_lt_of_le (by decide) reached
    rw [Nat.log2_lt (Nat.ne_of_gt pos)]
    exact Nat.lt_of_lt_of_le short (by decide +kernel)
  obtain ⟨b, inBinary, showsBinary⟩ := exists_binary reached short
  obtain ⟨d, inDecimal⟩ := Option.isSome_iff_exists.mp (Scale.render?_isSome small decimal)
  refine ⟨b, d, ?_, showsBinary, fun less => ?_⟩
  · have natural : ¬ (size : Int) < 0 := by omega
    have large : ¬ (size : Int) < (plainLimit : Nat) := by omega
    rw [label, if_neg natural, if_neg large, Int.toNat_natCast, inBinary, inDecimal]
  · obtain ⟨t, rendered, shows⟩ := exists_decimal reached less
    cases inDecimal.symm.trans rendered
    exact shows

theorem label_shows_short : plainLimit ≤ 1048570 ∧ 1048570 < 1024 ^ 5 ∧
    ∃ b d, label 1048570 true = .ok (b ++ "/" ++ d) ∧ binary.ShowsIn 1048570 b ∧ decimal.ShowsIn 1048570 d := by
  have reached : plainLimit ≤ 1048570 := by decide
  obtain ⟨b, d, labelled, inBinary, inDecimal⟩ := @label_shows 1048570 true reached (by decide)
  exact ⟨reached, by decide, b, d, labelled, inBinary, inDecimal (by decide)⟩

/-- Right below a unit, the number is rounded up to all of that unit, but the unit stays the one before. -/
theorem label_shows_next_unit :
    label 999999 = .ok "976.56KiB (1000.00KB)" ∧ label 1048575 = .ok "1024.00KiB (1.05MB)" :=
  ⟨rfl, rfl⟩

end Bytebeat.Size
