import Bytebeat.Proofs.Text.Surrogates

namespace Bytebeat

theorem CodePoint.isSurrogate_iff {c : CodePoint} : c.isSurrogate = true ↔ 0xD800 ≤ c.val ∧ c.val < 0xE000 := by
  simp only [isSurrogate, Bool.and_eq_true, decide_eq_true_eq]

theorem CodePoint.isSurrogate_ofChar (c : Char) : (ofChar c).isSurrogate = false := by
  have value : (ofChar c).val = c.val.toNat := rfl
  rw [Bool.eq_false_iff, ne_eq, isSurrogate_iff, value]
  rcases c.valid with low | ⟨high, -⟩
  · have : c.val.toNat < 0xD800 := low
    omega
  · have : 0xDFFF < c.val.toNat := high
    omega

def previous? {α : Type} (at? : Nat → Option α) : Nat → Option α
  | 0 => none
  | i + 1 => at? i

/-- At a place stands one half of two, and the other half does not stand on its other side. -/
def LoneAt {α : Type} (opens closes : α → Bool) (at? : Nat → Option α) (i : Nat) : Prop :=
  ((at? i).any opens = true ∧ (at? (i + 1)).any closes = false) ∨
  ((at? i).any closes = true ∧ (previous? at? i).any opens = false)

section
variable {α β : Type} {opens closes : α → Bool}

instance (at? : Nat → Option α) (i : Nat) : Decidable (LoneAt opens closes at? i) :=
  inferInstanceAs (Decidable (_ ∨ _))

theorem loneAt_map_iff {f : β → α} {at? : Nat → Option β} {i : Nat} :
    LoneAt opens closes (fun i => (at? i).map f) i ↔ LoneAt (opens ∘ f) (closes ∘ f) at? i := by
  cases i <;> simp [LoneAt, previous?, Option.any_map, Function.comp_def]

theorem loneAt_cons_succ_succ_iff {w : α} {us : List α} {i : Nat} :
    LoneAt opens closes ((w :: us)[·]?) (i + 2) ↔ LoneAt opens closes (us[·]?) (i + 1) := by
  simp [LoneAt, previous?]

theorem loneAt_cons_succ_iff {w : α} (closed : opens w = false) {us : List α} {i : Nat} :
    LoneAt opens closes ((w :: us)[·]?) (i + 1) ↔ LoneAt opens closes (us[·]?) i := by
  cases i <;> simp [LoneAt, previous?, closed]

end

namespace Text
open CodePoint

theorem hasSurrogate_cons (c : CodePoint) (t : Text) : hasSurrogate (c :: t) = (c.isSurrogate || t.hasSurrogate) := rfl

@[simp] theorem hasSurrogate_append (s t : Text) : hasSurrogate (s ++ t) = (s.hasSurrogate || t.hasSurrogate) :=
  List.any_append

@[simp] theorem hasSurrogate_map_ofChar (cs : List Char) : hasSurrogate (cs.map ofChar) = false := by
  simp [hasSurrogate, isSurrogate_ofChar]

@[simp] theorem hasSurrogate_ofString (s : String) : hasSurrogate (ofString s) = false := hasSurrogate_map_ofChar s.toList

@[simp] theorem hasSurrogate_ofNat (n : Nat) : hasSurrogate (ofNat n) = false := hasSurrogate_map_ofChar _

@[simp] theorem hasSurrogate_ofInt (n : Int) : hasSurrogate (ofInt n) = false := by
  cases n with
  | ofNat n => exact hasSurrogate_ofNat n
  | negSucc n => exact hasSurrogate_ofNat (n + 1)

theorem hasSurrogate_of_latin {t : Text} (latin : ∀ c ∈ t, c.val < 0x100) : t.hasSurrogate = false := by
  rw [hasSurrogate, List.any_eq_false]
  intro c mem
  rw [isSurrogate_iff]
  have := latin c mem
  omega

def LoneHalfAt (us : List CodeUnit) (i : Nat) : Prop :=
  LoneAt (fun u => u.codePoint.isHigh) (fun u => u.codePoint.isLow) (us[·]?) i

theorem isLow_of_head?_ofUnits {u : CodeUnit} {us : List CodeUnit} {low : CodePoint}
    (first : (ofUnits (u :: us)).head? = some low) (isLow : low.isLow = true) : u.codePoint.isLow = true := by
  rw [ofUnits_cons] at first
  by_cases pair : Meets u.codePoint (ofUnits us)
  · obtain ⟨second, rest, -, joined⟩ := consUnit_of_meets pair
    rw [joined, List.head?_cons, Option.some.injEq] at first
    have bound := (isLow_iff.mp isLow).2
    rw [← first] at bound
    simp only [ofPair] at bound
    omega
  · rw [consUnit_of_not_meets pair, List.head?_cons, Option.some.injEq] at first
    rwa [first]

theorem ofUnits_cons_cons_of_pair {high low : CodeUnit} (isHigh : high.codePoint.isHigh = true)
    (isLow : low.codePoint.isLow = true) (us : List CodeUnit) :
    ofUnits (high :: low :: us) = ofPair high.codePoint low.codePoint :: ofUnits us := by
  have apart := not_meets (isLow_iff.mp isLow).1 (ofUnits us)
  rw [ofUnits_cons, ofUnits_cons, consUnit_of_not_meets apart, consUnit, if_pos]
  exact Bool.and_eq_true_iff.mpr ⟨isHigh, isLow⟩

theorem not_meets_ofUnits {u : CodeUnit} {us : List CodeUnit}
    (apart : u.codePoint.isHigh = true → us[0]?.any (·.codePoint.isLow) = false) :
    ¬ Meets u.codePoint (ofUnits us) := by
  rintro ⟨isHigh, low, first, isLow⟩
  cases us with
  | nil => cases first
  | cons v us =>
      have : v.codePoint.isLow = true := isLow_of_head?_ofUnits first isLow
      simp [this] at apart
      simp [apart] at isHigh

theorem hasSurrogate_ofUnits_cons_of_apart {u : CodeUnit} {us : List CodeUnit}
    (apart : u.codePoint.isHigh = true → us[0]?.any (·.codePoint.isLow) = false)
    (rest : (ofUnits us).hasSurrogate = true ↔ ∃ i, LoneHalfAt us i) :
    (ofUnits (u :: us)).hasSurrogate = true ↔ ∃ i, LoneHalfAt (u :: us) i := by
  rw [ofUnits_cons, consUnit_of_not_meets (not_meets_ofUnits apart), hasSurrogate_cons, isSurrogate_eq]
  by_cases isHigh : u.codePoint.isHigh = true
  · exact iff_of_true (by simp [isHigh]) ⟨0, .inl ⟨isHigh, apart isHigh⟩⟩
  · by_cases isLow : u.codePoint.isLow = true
    · exact iff_of_true (by simp [isLow]) ⟨0, .inr ⟨isLow, rfl⟩⟩
    · have here : ¬ LoneHalfAt (u :: us) 0 := by
        rintro (⟨isHalf, -⟩ | ⟨isHalf, -⟩)
        · exact isHigh isHalf
        · exact isLow isHalf
      have later (i : Nat) : LoneHalfAt (u :: us) (i + 1) ↔ LoneHalfAt us i :=
        loneAt_cons_succ_iff (by simpa using isHigh)
      rw [← Nat.or_exists_add_one, or_iff_right here]
      simp only [later, isHigh, isLow, Bool.or_self, Bool.false_or, rest]

theorem hasSurrogate_ofUnits_of_pair {high low : CodeUnit} (isHigh : high.codePoint.isHigh = true)
    (isLow : low.codePoint.isLow = true) {us : List CodeUnit}
    (rest : (ofUnits us).hasSurrogate = true ↔ ∃ i, LoneHalfAt us i) :
    (ofUnits (high :: low :: us)).hasSurrogate = true ↔ ∃ i, LoneHalfAt (high :: low :: us) i := by
  have joined : (ofPair high.codePoint low.codePoint).isSurrogate = false := by
    rw [Bool.eq_false_iff, ne_eq, isSurrogate_iff]
    simp only [ofPair]
    omega
  have notHigh : low.codePoint.isHigh = false := by
    rw [Bool.eq_false_iff, ne_eq, isHigh_iff]
    have := isLow_iff.mp isLow
    omega
  have notLow : high.codePoint.isLow = false := by
    rw [Bool.eq_false_iff, ne_eq, isLow_iff]
    have := isHigh_iff.mp isHigh
    omega
  have first : ¬ LoneHalfAt (high :: low :: us) 0 := by
    rintro (⟨-, alone⟩ | ⟨isHalf, -⟩)
    · cases isLow.symm.trans alone
    · cases notLow.symm.trans isHalf
  have second : ¬ LoneHalfAt (high :: low :: us) 1 := by
    rintro (⟨isHalf, -⟩ | ⟨-, alone⟩)
    · cases notHigh.symm.trans isHalf
    · cases isHigh.symm.trans alone
  have later (i : Nat) : LoneHalfAt (high :: low :: us) (i + 1 + 1) ↔ LoneHalfAt us i :=
    loneAt_cons_succ_succ_iff.trans (loneAt_cons_succ_iff (by exact notHigh))
  rw [ofUnits_cons_cons_of_pair isHigh isLow, hasSurrogate_cons, joined, Bool.false_or, ← Nat.or_exists_add_one,
    or_iff_right first, ← Nat.or_exists_add_one, or_iff_right second]
  simp only [later, rest]

theorem hasSurrogate_ofUnits_iff : ∀ us : List CodeUnit, (ofUnits us).hasSurrogate = true ↔ ∃ i, LoneHalfAt us i
  | [] => by simp [ofUnits, hasSurrogate, LoneHalfAt, LoneAt]
  | [_] => hasSurrogate_ofUnits_cons_of_apart (fun _ => rfl) (hasSurrogate_ofUnits_iff [])
  -- A pair is read in one step, so the recursion goes past both of its halves.
  | u :: v :: us => by
    by_cases pair : u.codePoint.isHigh = true ∧ v.codePoint.isLow = true
    · exact hasSurrogate_ofUnits_of_pair pair.1 pair.2 (hasSurrogate_ofUnits_iff us)
    · apply hasSurrogate_ofUnits_cons_of_apart _ (hasSurrogate_ofUnits_iff (v :: us))
      exact fun isHigh => Bool.eq_false_iff.mpr fun isLow => pair ⟨isHigh, isLow⟩

end Text
end Bytebeat
