import Mathlib.Algebra.Group.Nat.Defs
import Bytebeat.Size.Binary64

namespace Bytebeat

variable {num den n : Nat}

theorem roundDiv_cases (num : Nat) (pos : 0 < den) : ∃ q r, num = q * den + r ∧
    (2 * r < den ∧ roundDiv num den = q ∨ den < 2 * r ∧ r < den ∧ roundDiv num den = q + 1 ∨
      2 * r = den ∧ roundDiv num den = q + q % 2) := by
  refine ⟨num / den, num % den, ?_, ?_⟩
  · rw [Nat.mul_comm, Nat.div_add_mod]
  · have small := Nat.mod_lt num pos
    unfold roundDiv
    simp only
    split
    · exact .inl ⟨‹_›, rfl⟩
    · split
      · exact .inr (.inl ⟨‹_›, small, rfl⟩)
      · exact .inr (.inr ⟨by omega, rfl⟩)

theorem roundDiv_bounds (num : Nat) (pos : 0 < den) :
    2 * (roundDiv num den * den) ≤ 2 * num + den ∧ 2 * num ≤ 2 * (roundDiv num den * den) + den := by
  obtain ⟨q, r, rfl, ⟨low, same⟩ | ⟨high, small, same⟩ | ⟨tie, same⟩⟩ := roundDiv_cases num pos
  · rw [same]
    omega
  · rw [same, Nat.add_one_mul q]
    omega
  · rcases Nat.mod_two_eq_zero_or_one q with even | odd
    · rw [same, even, Nat.add_zero]
      omega
    · rw [same, odd, Nat.add_one_mul q]
      omega

theorem roundDiv_le (pos : 0 < den) (le : num ≤ n * den) : roundDiv num den ≤ n := by
  have near := (roundDiv_bounds num pos).1
  apply Nat.le_of_lt_succ
  apply Nat.lt_of_mul_lt_mul_right (a := den)
  rw [Nat.succ_mul]
  omega

theorem le_roundDiv_iff (pos : 0 < den) (even : n % 2 = 0) :
    n ≤ roundDiv num den ↔ 2 * (n * den) ≤ 2 * num + den := by
  constructor
  · intro le
    have near := (roundDiv_bounds num pos).1
    have := Nat.mul_le_mul_right den le
    omega
  · intro close
    apply Nat.le_of_not_lt
    intro below
    obtain ⟨q, r, rfl, rounded⟩ := roundDiv_cases num pos
    -- The even number is the next one only where the quotient is less than half a unit above the one before.
    have far (k : Nat) (le : q + k ≤ n) : q * den + k * den ≤ n * den := by
      rw [← Nat.add_mul]
      exact Nat.mul_le_mul_right den le
    rcases rounded with ⟨low, same⟩ | ⟨high, small, same⟩ | ⟨tie, same⟩
    · have := far 1 (by omega)
      omega
    · have := far 2 (by omega)
      omega
    · have := far 2 (by omega)
      omega

theorem roundDiv_mul (n : Nat) (pos : 0 < den) : roundDiv (n * den) den = n := by
  simp [roundDiv, Nat.mul_div_cancel _ pos, pos]

namespace Binary64

/-! ## The exponent of a quotient -/

structure Reaches (num den r : Nat) : Prop where
  le : den * 2 ^ r ≤ num
  lt : num < den * 2 ^ (r + 1)

theorem Reaches.le_of_le {r s : Nat} (reaches : Reaches num den r) (other : den * 2 ^ s ≤ num) : s ≤ r := by
  have between := Nat.lt_of_mul_lt_mul_left (Nat.lt_of_le_of_lt other reaches.lt)
  exact Nat.le_of_lt_succ ((Nat.pow_lt_pow_iff_right (by decide)).mp between)

theorem Reaches.unique {r s : Nat} (reaches : Reaches num den r) (other : Reaches num den s) : r = s :=
  Nat.le_antisymm (other.le_of_le reaches.le) (reaches.le_of_le other.le)

theorem exists_reaches (pos : 0 < den) (le : den ≤ num) :
    ∃ r, Reaches num den r ∧ exponentOf num den = (r : Int) - 52 := by
  have denLow := Nat.log2_self_le (Nat.ne_of_gt pos)
  have denHigh := Nat.lt_log2_self (n := den)
  have numLow := Nat.log2_self_le (n := num) (by omega)
  have numHigh := Nat.lt_log2_self (n := num)
  obtain ⟨t, logs⟩ : ∃ t, num.log2 = den.log2 + t := by
    refine Nat.exists_eq_add_of_le ((Nat.le_log2 (by omega)).mpr ?_)
    exact Nat.le_trans denLow le
  have shift : (num.log2 : Int) - den.log2 = t := by omega
  have high : num < den * 2 ^ (t + 1) := by
    rw [logs, Nat.add_assoc, Nat.pow_add] at numHigh
    exact Nat.lt_of_lt_of_le numHigh (Nat.mul_le_mul_right _ denLow)
  simp only [exponentOf, shift, Int.natCast_nonneg, if_true, Int.toNat_natCast, Nat.shiftLeft_eq]
  by_cases reached : den * 2 ^ t ≤ num
  · refine ⟨t, ⟨reached, high⟩, ?_⟩
    rw [if_pos reached]
    omega
  · cases t with
    | zero => exact absurd le (by simpa using reached)
    | succ t =>
        refine ⟨t, ⟨?_, Nat.lt_of_not_le reached⟩, ?_⟩
        · rw [logs, ← Nat.add_assoc, Nat.add_right_comm, Nat.pow_add] at numLow
          exact Nat.le_trans (Nat.mul_le_mul_right _ (Nat.le_of_lt denHigh)) numLow
        · rw [if_neg reached]
          omega

theorem exponentOf_eq {r : Nat} (pos : 0 < den) (reaches : Reaches num den r) :
    exponentOf num den = (r : Int) - 52 := by
  have le : den ≤ num := Nat.le_trans (Nat.le_mul_of_pos_right den (Nat.two_pow_pos r)) reaches.le
  obtain ⟨s, other, same⟩ := exists_reaches pos le
  rw [same, other.unique reaches]

theorem ofQuotient?_eq {k r : Nat} (pos : 0 < den) (reaches : Reaches num den r) (places : k + r = 52) (some : 0 < k) :
    ofQuotient? num den = .some ⟨roundDiv (num * 2 ^ k) den, -k⟩ := by
  have exponent : exponentOf num den = -k := by
    rw [exponentOf_eq pos reaches]
    omega
  have nonzero : num ≠ 0 := by
    have := Nat.mul_pos pos (Nat.two_pow_pos r)
    have := reaches.le
    omega
  unfold ofQuotient?
  rw [if_neg nonzero]
  simp only [exponent, roundScaled, Int.neg_neg, Int.toNat_natCast, Nat.shiftLeft_eq]
  rw [if_neg (by simp; omega), if_neg (by omega)]

theorem roundTimes_eq {k : Nat} (mantissa scale : Nat) (some : 0 < k) :
    roundTimes ⟨mantissa, -k⟩ scale = roundDiv (mantissa * scale) (2 ^ k) := by
  simp only [roundTimes, Int.neg_neg, Int.toNat_natCast, Nat.shiftLeft_eq, Nat.one_mul]
  rw [if_neg (by omega)]

end Binary64
end Bytebeat
