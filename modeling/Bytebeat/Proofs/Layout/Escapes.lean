import Bytebeat.Proofs.Layout.Breaks

/-!
Literals as the code's own language reads them, and the breaks of a layout pass among them.

In the language a quote is escaped by an odd number of backslashes before it, in a pass by a backslash right before it.
The two rules differ at a quote behind an even number of them: there the language ends a literal that the pass reads on.
Up to the first such end a pass and the language see the same literals, so a break can only stand inside a literal
after one (`breaks_outside_literals`).
-/

namespace Bytebeat.Layout

def oddBackslashes : EscapeRule := fun before => (before.takeWhile (· = ('\\' : CodePoint))).length % 2 = 1

/-- At this position the language ends a literal whose last sign is a backslash. -/
def EndsOnBackslash (text : Text) (i : Nat) : Prop :=
  (unfinished? oddBackslashes (text.take i)).bind List.getLast? = some ('\\' : CodePoint) ∧
    unfinished? oddBackslashes (text.take (i + 1)) = none

instance (text : Text) (i : Nat) : Decidable (EndsOnBackslash text i) := inferInstanceAs (Decidable (_ ∧ _))

variable {config : Config} {text out literal : Text} {c : CodePoint} {i : Nat}

theorem afterBackslash_of_oddBackslashes {before : Text} (escaped : oddBackslashes before = true) :
    afterBackslash before = true := by
  cases before with
  | nil => cases escaped
  | cons c before =>
      by_cases backslash : c = '\\'
      · simp [afterBackslash, backslash]
      · simp [oddBackslashes, backslash] at escaped

theorem closes_of_afterBackslash (ends : closes afterBackslash literal c) : closes oddBackslashes literal c :=
  ⟨ends.1, Bool.eq_false_iff.mpr fun escaped => by
    have := ends.2
    rw [afterBackslash_of_oddBackslashes escaped] at this
    cases this⟩

theorem closes_afterBackslash_of_closes {rule : EscapeRule} (ends : closes rule literal c) :
    closes afterBackslash literal c ↔ literal.getLast? ≠ some ('\\' : CodePoint) := by
  simp only [closes, ends.1, true_and, afterBackslash, List.head?_reverse, decide_eq_false_iff_not, ne_eq]

theorem closes_iff_of_unfinished? {rule : EscapeRule} {t : Text} (inside : unfinished? rule t = some literal) :
    closes rule literal c ↔ unfinished? rule (t ++ [c]) = none := by
  constructor
  · exact fun ends => (concat_of_closes inside ends).1
  · intro free
    apply Classical.byContradiction
    intro goesOn
    rw [(concat_of_not_closes inside goesOn).1] at free
    cases free

/-! ## Both readings side by side -/

theorem take_succ_of_some (here : text[i]? = some c) : text.take (i + 1) = text.take i ++ [c] := by
  rw [List.take_add_one, here, Option.toList_some]

theorem take_succ_of_none (past : text[i]? = none) : text.take (i + 1) = text.take i := by
  rw [List.take_add_one, past, Option.toList_none, List.append_nil]

theorem concat_alike {t : Text} (alike : unfinished? afterBackslash t = unfinished? oddBackslashes t)
    (sound : ∀ literal, unfinished? oddBackslashes t = some literal → closes oddBackslashes literal c →
      literal.getLast? ≠ some ('\\' : CodePoint)) :
    unfinished? afterBackslash (t ++ [c]) = unfinished? oddBackslashes (t ++ [c]) := by
  cases inside : unfinished? oddBackslashes t with
  | none => rw [(concat_of_free (alike.trans inside) c).1, (concat_of_free inside c).1]
  | some literal =>
      have inPass := alike.trans inside
      by_cases ends : closes oddBackslashes literal c
      · have endsToo := (closes_afterBackslash_of_closes ends).mpr (sound literal inside ends)
        rw [(concat_of_closes inPass endsToo).1, (concat_of_closes inside ends).1]
      · have goesOn := mt closes_of_afterBackslash ends
        rw [(concat_of_not_closes inPass goesOn).1, (concat_of_not_closes inside ends).1]

theorem take_succ_alike (sound : ¬ EndsOnBackslash text i)
    (alike : unfinished? afterBackslash (text.take i) = unfinished? oddBackslashes (text.take i)) :
    unfinished? afterBackslash (text.take (i + 1)) = unfinished? oddBackslashes (text.take (i + 1)) := by
  cases here : text[i]? with
  | none => rw [take_succ_of_none here, alike]
  | some c =>
      have next := take_succ_of_some here
      rw [next]
      apply concat_alike alike
      -- The rules can only part where the language ends a literal behind a backslash.
      intro literal inside ends backslash
      refine sound ⟨by rw [inside, Option.bind_some, backslash], ?_⟩
      rw [next]
      exact (closes_iff_of_unfinished? inside).mp ends

theorem take_alike (sound : ∀ j < i, ¬ EndsOnBackslash text j) :
    unfinished? afterBackslash (text.take i) = unfinished? oddBackslashes (text.take i) := by
  induction i with
  | zero => rw [List.take_zero, unfinished?, unfinished?]
  | succ i ih =>
      exact take_succ_alike (sound i (Nat.lt_succ_self i)) (ih fun j before => sound j (Nat.lt_succ_of_lt before))

theorem not_endsOnBackslash_of_alike
    (alike : ∀ i, unfinished? afterBackslash (text.take i) = unfinished? oddBackslashes (text.take i)) (i : Nat) :
    ¬ EndsOnBackslash text i := by
  rintro ⟨last, free⟩
  obtain ⟨literal, inside, backslash⟩ := Option.bind_eq_some_iff.mp last
  cases here : text[i]? with
  | none =>
      rw [take_succ_of_none here, inside] at free
      cases free
  | some c =>
      have inPass := (alike i).trans inside
      have freeInPass := (alike (i + 1)).trans free
      rw [take_succ_of_some here] at free freeInPass
      have ends := (closes_iff_of_unfinished? inside).mpr free
      exact (closes_afterBackslash_of_closes ends).mp ((closes_iff_of_unfinished? inPass).mpr freeInPass) backslash

/-! ## Breaks among literals -/

theorem free_after_comma {rule : EscapeRule} (free : unfinished? rule (text.take i) = none)
    (comma : text[i]? = some (',' : CodePoint)) : unfinished? rule (text.take (i + 1)) = none := by
  rw [take_succ_of_some comma, (concat_of_free free _).1]
  rfl

/-- A break stands inside a literal only after an earlier one that ends on a backslash. -/
theorem breaks_outside_literals (succeeds : format config text = .ok out) :
    out = insertBreaks (EndsLine config text) 0 text ∧
    (∀ i, EndsLine config text i → unfinished? oddBackslashes (text.take (i + 1)) ≠ none →
      ∃ j < i, EndsOnBackslash text j) ∧
    ((∀ i, unfinished? afterBackslash (text.take i) = unfinished? oddBackslashes (text.take i)) ↔
      ∀ i, ¬ EndsOnBackslash text i) := by
  refine ⟨format_eq_insertBreaks succeeds, ?_, not_endsOnBackslash_of_alike, fun sound i => ?_⟩
  · intro i ends inside
    apply Classical.byContradiction
    intro sound
    have alike : unfinished? afterBackslash (text.take i) = unfinished? oddBackslashes (text.take i) :=
      take_alike fun j before wrong => sound ⟨j, before, wrong⟩
    exact inside (free_after_comma (alike.symm.trans ends.free) ends.comma)
  · exact take_alike fun j _ => sound j

theorem breaks_outside_literals_three :
    let text : Text := "\"\\\\\\\",a\",b"
    format .topLevel text = .ok "\"\\\\\\\",a\",\nb" ∧
    ∀ i, EndsLine .topLevel text i → unfinished? oddBackslashes (text.take (i + 1)) = none := by
  intro text
  have succeeds : format .topLevel text = .ok "\"\\\\\\\",a\",\nb" := rfl
  have sound : ∀ j < text.length, ¬ EndsOnBackslash text j := by decide +kernel
  refine ⟨succeeds, fun i ends => ?_⟩
  apply Classical.byContradiction
  intro inside
  obtain ⟨j, before, wrong⟩ := (breaks_outside_literals succeeds).2.1 i ends inside
  obtain ⟨within, -⟩ := List.getElem?_eq_some_iff.mp ends.comma
  exact sound j (Nat.lt_trans before within) wrong

/-- Two backslashes escape each other, but the pass takes the quote behind them for an escaped one. -/
theorem break_in_literal :
    let text : Text := "'\\\\','a,b'"
    format .topLevel text = .ok "'\\\\','a,\nb'" ∧ EndsLine .topLevel text 7 ∧
    unfinished? oddBackslashes (text.take 8) = some ("'a," : Text) :=
  ⟨rfl, by decide +kernel, by decide +kernel⟩

end Bytebeat.Layout
