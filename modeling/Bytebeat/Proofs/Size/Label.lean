import Bytebeat.Size.Label

namespace Bytebeat

theorem Binary64.exponentOf_le (num den : Nat) : exponentOf num den ≤ max (-1074) ((num.log2 : Int) - 52) := by
  simp only [exponentOf]
  split <;> omega

theorem Binary64.ofQuotient?_isSome {num : Nat} (small : num.log2 < 1023) (den : Nat) :
    (ofQuotient? num den).isSome = true := by
  have low : exponentOf num den < 971 := by
    have := exponentOf_le num den
    omega
  unfold ofQuotient?
  split
  · rfl
  · simp only [Bool.or_eq_true, Bool.and_eq_true, decide_eq_true_eq]
    rw [if_neg (by omega)]
    rfl

theorem Size.Scale.render?_isSome {size : Nat} (small : size.log2 < 1023) (scale : Scale) :
    (scale.render? size).isSome = true := by
  simp only [render?]
  split
  · rfl
  · rw [Option.isSome_map, Binary64.ofQuotient?_isSome small]

theorem Size.exists_label {size : Nat} (small : size.log2 < 1023) (compact : Bool) :
    ∃ t, label size compact = .ok t := by
  obtain ⟨b, inBinary⟩ := Option.isSome_iff_exists.mp (Scale.render?_isSome small binary)
  obtain ⟨d, inDecimal⟩ := Option.isSome_iff_exists.mp (Scale.render?_isSome small decimal)
  rw [label, if_neg (by omega), Int.toNat_natCast, inBinary, inDecimal]
  split
  · exact ⟨_, rfl⟩
  · exact ⟨_, rfl⟩

theorem Size.label_of_lt {size : Nat} (small : size < plainLimit) (compact : Bool) :
    label size compact = .ok (Text.ofInt size ++ "B") := by
  have natural : ¬ (size : Int) < 0 := by omega
  have plain : (size : Int) < (plainLimit : Nat) := Int.ofNat_lt.mpr small
  rw [label, if_neg natural, if_pos plain]

theorem Size.label_ok_or_tooLarge (size : Nat) (compact : Bool) :
    (∃ t, label size compact = .ok t) ∨ label size compact = .error .tooLarge := by
  have natural : ¬ (size : Int) < 0 := by omega
  rw [label, if_neg natural]
  repeat' split
  all_goals simp

end Bytebeat
