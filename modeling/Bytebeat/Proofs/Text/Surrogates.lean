import Bytebeat.Proofs.Text.Units

namespace Bytebeat
namespace CodePoint

theorem isHigh_iff {c : CodePoint} : c.isHigh = true ↔ 0xD800 ≤ c.val ∧ c.val < 0xDC00 := by
  simp only [isHigh, Bool.and_eq_true, decide_eq_true_eq]

theorem isLow_iff {c : CodePoint} : c.isLow = true ↔ 0xDC00 ≤ c.val ∧ c.val < 0xE000 := by
  simp only [isLow, Bool.and_eq_true, decide_eq_true_eq]

theorem exists_units_of_wide {c : CodePoint} (wide : 0x10000 ≤ c.val) : ∃ high low : CodeUnit,
    c.units = [high, low] ∧ high.codePoint.isHigh = true ∧ low.codePoint.isLow = true ∧
    ofPair high.codePoint low.codePoint = c := by
  have bound := c.isLt
  refine ⟨⟨_, high_lt c.isLt⟩, ⟨_, low_lt c.val⟩, dif_neg (Nat.not_lt.mpr wide), ?_, ?_, ?_⟩
  · simp only [isHigh_iff, CodeUnit.val_codePoint]
    omega
  · simp only [isLow_iff, CodeUnit.val_codePoint]
    omega
  · apply ext
    simp only [ofPair, CodeUnit.val_codePoint]
    omega

end CodePoint

namespace Text

/-- A high and a low surrogate stand next to each other as two code points. -/
def SplitPair (t : Text) : Prop :=
  ∃ high low : CodePoint, [high, low] <:+: t ∧ high.isHigh = true ∧ low.isLow = true

def Meets (c : CodePoint) (t : Text) : Prop := c.isHigh = true ∧ ∃ low, t.head? = some low ∧ low.isLow = true

theorem not_splitPair_nil : ¬ SplitPair [] := by
  rintro ⟨high, low, inside, -⟩
  exact absurd (List.infix_nil.mp inside) (by simp)

theorem splitPair_cons_iff {c : CodePoint} {t : Text} : SplitPair (c :: t) ↔ Meets c t ∨ SplitPair t := by
  constructor
  · rintro ⟨high, low, inside, isHigh, isLow⟩
    rcases List.infix_cons_iff.mp inside with ⟨rest, start⟩ | later
    · obtain ⟨rfl, rfl⟩ := List.cons.inj start
      exact .inl ⟨isHigh, low, rfl, isLow⟩
    · exact .inr ⟨high, low, later, isHigh, isLow⟩
  · rintro (⟨isHigh, low, first, isLow⟩ | ⟨high, low, inside, isHigh, isLow⟩)
    · obtain ⟨rest, rfl⟩ := List.head?_eq_some_iff.mp first
      exact ⟨c, low, ⟨[], rest, rfl⟩, isHigh, isLow⟩
    · exact ⟨high, low, List.infix_cons_iff.mpr (.inr inside), isHigh, isLow⟩

/-! ## Through units -/

theorem ofUnits_cons (u : CodeUnit) (us : List CodeUnit) : ofUnits (u :: us) = consUnit u (ofUnits us) := rfl

theorem consUnit_of_not_meets {u : CodeUnit} {t : Text} (apart : ¬ Meets u.codePoint t) :
    consUnit u t = u.codePoint :: t := by
  cases t with
  | nil => rfl
  | cons low rest =>
      refine if_neg fun pair => apart ?_
      obtain ⟨isHigh, isLow⟩ := Bool.and_eq_true_iff.mp pair
      exact ⟨isHigh, low, rfl, isLow⟩

theorem consUnit_of_meets {u : CodeUnit} {t : Text} (pair : Meets u.codePoint t) :
    ∃ low rest, t = low :: rest ∧ consUnit u t = CodePoint.ofPair u.codePoint low :: rest := by
  obtain ⟨isHigh, low, first, isLow⟩ := pair
  obtain ⟨rest, rfl⟩ := List.head?_eq_some_iff.mp first
  exact ⟨low, rest, rfl, if_pos (Bool.and_eq_true_iff.mpr ⟨isHigh, isLow⟩)⟩

theorem not_meets {c : CodePoint} (notHigh : 0xDC00 ≤ c.val) (t : Text) : ¬ Meets c t := by
  rintro ⟨isHigh, -⟩
  have := (CodePoint.isHigh_iff.mp isHigh).2
  omega

theorem not_splitPair_ofUnits (us : List CodeUnit) : ¬ SplitPair (ofUnits us) := by
  induction us with
  | nil => exact not_splitPair_nil
  | cons u us ih =>
      rw [ofUnits_cons]
      by_cases pair : Meets u.codePoint (ofUnits us)
      · obtain ⟨low, rest, start, joined⟩ := consUnit_of_meets pair
        have beyond : 0xDC00 ≤ (CodePoint.ofPair u.codePoint low).val := by
          simp only [CodePoint.ofPair]
          omega
        rw [start, splitPair_cons_iff] at ih
        rw [joined, splitPair_cons_iff]
        exact fun split => split.elim (not_meets beyond rest) fun later => ih (.inr later)
      · rw [consUnit_of_not_meets pair, splitPair_cons_iff]
        exact fun split => split.elim pair ih

theorem ofUnits_units_append {c : CodePoint} (wide : 0x10000 ≤ c.val) (us : List CodeUnit) :
    ofUnits (c.units ++ us) = c :: ofUnits us := by
  obtain ⟨high, low, units, isHigh, isLow, joined⟩ := CodePoint.exists_units_of_wide wide
  have apart := not_meets (CodePoint.isLow_iff.mp isLow).1 (ofUnits us)
  rw [units, List.cons_append, List.singleton_append, ofUnits_cons, ofUnits_cons, consUnit_of_not_meets apart,
    consUnit, if_pos (Bool.and_eq_true_iff.mpr ⟨isHigh, isLow⟩), joined]

theorem ofUnits_units_eq_self_iff {t : Text} : ofUnits t.units = t ↔ ¬ SplitPair t := by
  constructor
  · intro same
    rw [← same]
    exact not_splitPair_ofUnits _
  · intro apart
    induction t with
    | nil => rfl
    | cons c t ih =>
        rw [splitPair_cons_iff, not_or] at apart
        by_cases narrow : c.val < 0x10000
        · rw [units_cons, CodePoint.units_of_lt narrow, List.singleton_append, ofUnits_cons, ih apart.2]
          exact consUnit_of_not_meets apart.1
        · rw [units_cons, ofUnits_units_append (Nat.not_lt.mp narrow), ih apart.2]

end Text
end Bytebeat
