import Bytebeat.Proofs.Text.Surrogates

namespace Bytebeat

theorem CodePoint.val_ofPair {high low : CodePoint} (isHigh : high.isHigh = true) (isLow : low.isLow = true) :
    (ofPair high low).val = 0x10000 + 0x400 * (high.val - 0xD800) + (low.val - 0xDC00) := by
  have := isHigh_iff.mp isHigh
  have := isLow_iff.mp isLow
  simp only [ofPair]
  omega

namespace Text
open CodePoint

/-- The second text is the first one with its split pairs joined. -/
inductive Joins : Text → Text → Prop where
  | nil : Joins [] []
  | pair {high low c : CodePoint} {t s : Text} (isHigh : high.isHigh = true) (isLow : low.isLow = true)
      (encoded : c.val = 0x10000 + 0x400 * (high.val - 0xD800) + (low.val - 0xDC00)) (rest : Joins t s) :
      Joins (high :: low :: t) (c :: s)
  | other {c : CodePoint} {t s : Text} (apart : ¬ Meets c t) (rest : Joins t s) : Joins (c :: t) (c :: s)

variable {high low c : CodePoint} {t s : Text}

theorem Joins.unique (joins : Joins t s) {s' : Text} (joins' : Joins t s') : s = s' := by
  induction joins generalizing s' with
  | nil =>
      cases joins'
      rfl
  | pair isHigh isLow encoded _ ih =>
      cases joins' with
      | pair _ _ encoded' rest' => rw [CodePoint.ext (encoded.trans encoded'.symm), ih rest']
      | other apart' => exact absurd ⟨isHigh, _, rfl, isLow⟩ apart'
  | other apart _ ih =>
      cases joins' with
      | pair isHigh isLow => exact absurd ⟨isHigh, _, rfl, isLow⟩ apart
      | other _ rest' => rw [ih rest']

theorem Joins.meets (joins : Joins t s) (meets : Meets c s) : Meets c t := by
  obtain ⟨isHigh, low, first, isLow⟩ := meets
  cases joins with
  | nil => cases first
  | pair _ _ encoded _ =>
      cases first
      have := (isLow_iff.mp isLow).2
      omega
  | other _ _ => exact ⟨isHigh, low, first, isLow⟩

/-! ## Through units -/

theorem ofUnits_units_pair (isHigh : high.isHigh = true) (isLow : low.isLow = true) (t : Text) :
    ofUnits (units (high :: low :: t)) = ofPair high low :: ofUnits t.units := by
  have wide : 0x10000 ≤ (ofPair high low).val := by
    rw [val_ofPair isHigh isLow]
    omega
  rw [units_cons, units_cons, ← List.append_assoc, ← units_ofPair isHigh isLow, ofUnits_units_append wide]

theorem ofUnits_units_cons (apart : ¬ Meets c (ofUnits t.units)) :
    ofUnits (units (c :: t)) = c :: ofUnits t.units := by
  by_cases narrow : c.val < 0x10000
  · rw [units_cons, units_of_lt narrow, List.singleton_append, ofUnits_cons]
    exact consUnit_of_not_meets apart
  · rw [units_cons, ofUnits_units_append (Nat.not_lt.mp narrow)]

theorem joins_cons (apart : ¬ Meets c t) (rest : Joins t (ofUnits t.units)) :
    Joins (c :: t) (ofUnits (units (c :: t))) := by
  rw [ofUnits_units_cons fun meets => apart (rest.meets meets)]
  exact .other apart rest

theorem joins_ofUnits_units : ∀ t : Text, Joins t (ofUnits t.units)
  | [] => .nil
  | [_] => joins_cons (fun ⟨_, _, first, _⟩ => nomatch first) .nil
  -- A pair goes in one step, so the recursion is on what follows both of its halves.
  | c :: d :: t => by
    by_cases pair : c.isHigh = true ∧ d.isLow = true
    · rw [ofUnits_units_pair pair.1 pair.2]
      exact .pair pair.1 pair.2 (val_ofPair pair.1 pair.2) (joins_ofUnits_units t)
    · apply joins_cons _ (joins_ofUnits_units (d :: t))
      rintro ⟨isHigh, low, first, isLow⟩
      cases first
      exact pair ⟨isHigh, isLow⟩

theorem joins_iff : Joins t s ↔ s = ofUnits t.units := by
  constructor
  · exact fun joins => joins.unique (joins_ofUnits_units t)
  · rintro rfl
    exact joins_ofUnits_units t

/--
Units are kept by a trip through a text. A trip through units joins the split pairs of a text and does nothing else,
so it keeps exactly the texts without one, and a second trip changes nothing.
-/
theorem units_ofUnits_and_back :
    (∀ us : List CodeUnit, (ofUnits us).units = us) ∧
    ∀ t : Text, (∀ s, Joins t s ↔ s = ofUnits t.units) ∧ (ofUnits t.units = t ↔ ¬ SplitPair t) ∧
      ofUnits (ofUnits t.units).units = ofUnits t.units := by
  refine ⟨units_ofUnits, fun t => ⟨fun s => joins_iff, ofUnits_units_eq_self_iff, ?_⟩⟩
  rw [units_ofUnits]

example : let text (ns : List Nat) : Text := ns.filterMap ofNat?
    ofUnits (units (text [0xDE00, 0xD83D, 0xD83D, 0xDE00, 0xDE00, 0xD83D])) =
      text [0xDE00, 0xD83D, 0x1F600, 0xDE00, 0xD83D] := by decide

end Text
end Bytebeat
