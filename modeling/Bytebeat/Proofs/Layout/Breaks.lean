import Bytebeat.Proofs.Layout.Insertion
import Bytebeat.Proofs.Layout.Literal

namespace Bytebeat.Layout

def depth (opening closing : CodePoint) (t : Text) : Int := (t.count opening : Int) - t.count closing

abbrev bareBefore (text : Text) (i : Nat) : Text := bare afterBackslash (text.take i)

/-- At this position stands a comma that ends its line. -/
structure EndsLine (config : Config) (text : Text) (i : Nat) : Prop where
  comma : text[i]? = some (',' : CodePoint)
  free : unfinished? afterBackslash (text.take i) = none
  arrays : depth '[' ']' (bareBefore text i) = 0
  parens : config.considerParens = false ∨ depth '(' ')' (bareBefore text i) ≤ config.maxParenDepth
  unbroken : text[i + 1]? ≠ some ('\n' : CodePoint)

instance (config : Config) (text : Text) (i : Nat) : Decidable (EndsLine config text i) :=
  decidable_of_iff (text[i]? = some (',' : CodePoint) ∧ unfinished? afterBackslash (text.take i) = none ∧
      depth '[' ']' (bareBefore text i) = 0 ∧
      (config.considerParens = false ∨ depth '(' ')' (bareBefore text i) ≤ config.maxParenDepth) ∧
      text[i + 1]? ≠ some ('\n' : CodePoint))
    ⟨fun ⟨comma, free, arrays, parens, unbroken⟩ => ⟨comma, free, arrays, parens, unbroken⟩,
      fun h => ⟨h.comma, h.free, h.arrays, h.parens, h.unbroken⟩⟩

def lineEnds (config : Config) (text : Text) : List Nat := (List.range text.length).filter (EndsLine config text ·)

/-! ## The state of a scan -/

/-- The scan stands in a state after the code before. -/
structure Reached (before : Text) (s : State) : Prop where
  literal : s.literal = (unfinished? afterBackslash before).bind List.head?
  previous : s.previous = before.getLast?
  parens : s.parens = depth '(' ')' (bare afterBackslash before)
  arrays : s.arrays = depth '[' ']' (bare afterBackslash before)

theorem reached_start : Reached [] {} := by
  constructor <;> simp [unfinished?, bare, depth]

theorem depth_concat (opening closing : CodePoint) (t : Text) (c : CodePoint) :
    depth opening closing (t ++ [c]) =
      depth opening closing t + (if c = opening then 1 else 0) - (if c = closing then 1 else 0) := by
  simp only [depth, List.count_append, List.count_singleton, beq_iff_eq]
  split <;> split <;> omega

theorem ne_bracket_of_isQuote {c : CodePoint} (quote : isQuote c = true) :
    (c ≠ '(' ∧ c ≠ ')') ∧ c ≠ '[' ∧ c ≠ ']' := by
  simp only [isQuote, Bool.or_eq_true, decide_eq_true_eq] at quote
  rcases quote with (rfl | rfl) | rfl <;> decide

theorem outside_eq_ok {s s' : State} {c : CodePoint} (moved : s.outside c = .ok s') :
    s'.literal = (if isQuote c then some c else s.literal) ∧ s'.previous = some c ∧
    (s'.parens : Int) = s.parens + (if c = '(' then 1 else 0) - (if c = ')' then 1 else 0) ∧
    (s'.arrays : Int) = s.arrays + (if c = '[' then 1 else 0) - (if c = ']' then 1 else 0) := by
  simp only [State.outside] at moved
  split at moved
  · rename_i quote
    obtain ⟨⟨opening, closing⟩, openingArray, closingArray⟩ := ne_bracket_of_isQuote quote
    cases moved
    simp [quote, opening, closing, openingArray, closingArray]
  · rename_i code
    repeat' split at moved
    all_goals cases moved
    all_goals simp_all +decide
    all_goals omega

theorem depth_append_code {opening closing : CodePoint} (opens : isQuote opening = false)
    (ends : isQuote closing = false) (t : Text) (c : CodePoint) :
    depth opening closing (t ++ if isQuote c then [] else [c]) =
      depth opening closing t + (if c = opening then 1 else 0) - (if c = closing then 1 else 0) := by
  cases quote : isQuote c with
  | false => exact depth_concat opening closing t c
  | true =>
      have notOpening : c ≠ opening := fun same => by simp [same, opens] at quote
      have notClosing : c ≠ closing := fun same => by simp [same, ends] at quote
      simp [notOpening, notClosing]

theorem closes_afterBackslash_iff {before literal : Text} (inside : unfinished? afterBackslash before = some literal)
    (c : CodePoint) : closes afterBackslash literal c ↔
      literal.head? = some c ∧ before.getLast? ≠ some ('\\' : CodePoint) := by
  obtain ⟨free, quote, body, rfl, rfl, _⟩ := exists_of_unfinished inside
  simp only [closes, afterBackslash, List.head?_reverse, decide_eq_false_iff_not, List.getLast?_append, ne_eq]
  simp

variable {config : Config} {before rest : Text} {c : CodePoint} {s s' : State}

theorem Reached.literal_eq_none_iff (reached : Reached before s) :
    s.literal = none ↔ unfinished? afterBackslash before = none := by
  rw [reached.literal]
  cases inside : unfinished? afterBackslash before with
  | none => simp
  | some literal =>
      obtain ⟨_, quote, body, _, rfl, _⟩ := exists_of_unfinished inside
      simp

theorem inLiteral_eq (s : State) (quote c : CodePoint) : s.inLiteral quote c =
    { s with literal := if c = quote ∧ s.previous ≠ some ('\\' : CodePoint) then none else s.literal
             previous := some c } := by
  unfold State.inLiteral
  split <;> simp_all

theorem Reached.step (reached : Reached before s) (moved : s.step c = .ok s') : Reached (before ++ [c]) s' := by
  cases inside : unfinished? afterBackslash before with
  | none =>
      have free := reached.literal_eq_none_iff.mpr inside
      simp only [State.step, free] at moved
      obtain ⟨literal, previous, parens, arrays⟩ := outside_eq_ok moved
      obtain ⟨opened, kept⟩ := concat_of_free inside c
      -- Quotes do not stand outside literals, and the depths do not count them.
      refine ⟨?_, ?_, ?_, ?_⟩
      · rw [literal, opened, free]
        split <;> rfl
      · rw [previous, List.getLast?_concat]
      · rw [parens, reached.parens, kept, depth_append_code (by decide) (by decide)]
      · rw [arrays, reached.arrays, kept, depth_append_code (by decide) (by decide)]
  | some literal =>
      obtain ⟨_, quote, body, _, rfl, _⟩ := exists_of_unfinished inside
      have isOpen : s.literal = some quote := by
        rw [reached.literal, inside]
        rfl
      simp only [State.step, isOpen, inLiteral_eq, Except.ok.injEq] at moved
      have rule := closes_afterBackslash_iff inside c
      rw [← reached.previous, List.head?_cons, Option.some.injEq, eq_comm] at rule
      subst moved
      by_cases ends : closes afterBackslash (quote :: body) c
      · obtain ⟨closed, kept⟩ := concat_of_closes inside ends
        refine ⟨?_, List.getLast?_concat.symm, ?_, ?_⟩
        · rw [closed]
          exact if_pos (rule.mp ends)
        · rw [kept, reached.parens]
        · rw [kept, reached.arrays]
      · obtain ⟨stillOpen, kept⟩ := concat_of_not_closes inside ends
        refine ⟨?_, List.getLast?_concat.symm, ?_, ?_⟩
        · rw [stillOpen]
          exact if_neg (mt rule.mpr ends)
        · rw [kept, reached.parens]
        · rw [kept, reached.arrays]

/-! ## The breaks of a scan -/

theorem endsLine_append_iff : EndsLine config (before ++ c :: rest) before.length ↔
    c = ',' ∧ unfinished? afterBackslash before = none ∧ depth '[' ']' (bare afterBackslash before) = 0 ∧
    (config.considerParens = false ∨ depth '(' ')' (bare afterBackslash before) ≤ config.maxParenDepth) ∧
    rest.head? ≠ some ('\n' : CodePoint) := by
  have here : (before ++ c :: rest)[before.length]? = some c := by simp
  have next : (before ++ c :: rest)[before.length + 1]? = rest.head? := by
    simp [List.getElem?_append_right, List.head?_eq_getElem?]
  have passed : (before ++ c :: rest).take before.length = before := List.take_left
  constructor
  · rintro ⟨comma, free, arrays, parens, unbroken⟩
    rw [bareBefore, passed] at arrays parens
    exact ⟨Option.some.inj (here.symm.trans comma), passed ▸ free, arrays, parens, next ▸ unbroken⟩
  · rintro ⟨rfl, free, arrays, parens, unbroken⟩
    refine ⟨here, ?_, ?_, ?_, ?_⟩
    · rwa [passed]
    · rwa [bareBefore, passed]
    · rwa [bareBefore, passed]
    · rwa [next]

theorem Reached.breaks_iff (reached : Reached before s) :
    s.breaks config c rest.head? = true ↔ EndsLine config (before ++ c :: rest) before.length := by
  have arrays : s.arrays = 0 ↔ depth '[' ']' (bare afterBackslash before) = 0 := by
    rw [← reached.arrays, Int.natCast_eq_zero]
  rw [endsLine_append_iff, ← reached.literal_eq_none_iff, ← arrays, ← reached.parens]
  simp only [State.breaks, Config.allows, Bool.and_eq_true, Bool.or_eq_true, Bool.not_eq_true', decide_eq_true_eq,
    Option.isNone_iff_eq_none, ne_eq]
  constructor
  · rintro ⟨⟨⟨⟨free, comma⟩, arrays⟩, parens⟩, unbroken⟩
    exact ⟨comma, free, arrays, parens, unbroken⟩
  · rintro ⟨comma, free, arrays, parens, unbroken⟩
    exact ⟨⟨⟨⟨free, comma⟩, arrays⟩, parens⟩, unbroken⟩

theorem scan_cons_eq_ok {out : Text} (succeeds : scan config s [] (c :: rest) = .ok out) :
    ∃ s' later, s.step c = .ok s' ∧ scan config s' [] rest = .ok later ∧
      out = if s.breaks config c rest.head? then c :: '\n' :: later else c :: later := by
  unfold scan at succeeds
  cases moved : s.step c with
  | error => simp [moved] at succeeds
  | ok s' =>
      simp only [moved] at succeeds
      rw [scan_eq_map] at succeeds
      cases ran : scan config s' [] rest with
      | error =>
          rw [ran] at succeeds
          cases succeeds
      | ok later =>
          rw [ran] at succeeds
          cases succeeds
          refine ⟨s', later, rfl, ran, ?_⟩
          split <;> simp

theorem scan_eq_insertBreaks {out : Text} (reached : Reached before s)
    (succeeds : scan config s [] rest = .ok out) :
    out = insertBreaks (EndsLine config (before ++ rest)) before.length rest := by
  induction rest generalizing before s out with
  | nil =>
      unfold scan at succeeds
      cases ends : s.finish <;> rw [ends] at succeeds <;> cases succeeds
      rfl
  | cons c rest ih =>
      obtain ⟨s', later, moved, ran, rfl⟩ := scan_cons_eq_ok succeeds
      -- The break after `c` is decided by the state before it, the rest by the state after it.
      have rest_eq := ih (reached.step moved) ran
      rw [List.append_assoc, List.singleton_append, List.length_append, List.length_singleton] at rest_eq
      unfold insertBreaks
      rw [← rest_eq]
      by_cases ends : EndsLine config (before ++ c :: rest) before.length
      · rw [if_pos ends, if_pos (reached.breaks_iff.mpr ends)]
      · rw [if_neg ends, if_neg (mt reached.breaks_iff.mp ends)]

theorem format_eq_insertBreaks {text out : Text} (succeeds : format config text = .ok out) :
    out = insertBreaks (EndsLine config text) 0 text :=
  scan_eq_insertBreaks reached_start succeeds

/-! ## What the breaks come to -/

theorem countP_endsLine (config : Config) (text : Text) :
    (List.range' 0 text.length).countP (EndsLine config text ·) = (lineEnds config text).length := by
  rw [List.countP_eq_length_filter, lineEnds, List.range_eq_range']

theorem EndsLine.afterCommas (config : Config) (text : Text) : AfterCommas (EndsLine config text) 0 text := by
  intro k ends
  rw [Nat.zero_add] at ends
  exact ⟨ends.comma, ends.unbroken⟩

variable {text out : Text}

theorem joinLines_of_format (succeeds : format config text = .ok out) : joinLines out = joinLines text := by
  rw [format_eq_insertBreaks succeeds, joinLines_insertBreaks (EndsLine.afterCommas config text)]

theorem occurrences_of_format (succeeds : format config text = .ok out) :
    out.occurrences '\n' = text.occurrences '\n' + (lineEnds config text).length := by
  rw [Text.occurrences_eq_count, Text.occurrences_eq_count, format_eq_insertBreaks succeeds, count_insertBreaks,
    countP_endsLine]

theorem eq_of_format_iff (succeeds : format config text = .ok out) :
    out = text ↔ (lineEnds config text).length = 0 := by
  rw [format_eq_insertBreaks succeeds, insertBreaks_eq_self_iff, countP_endsLine]

end Bytebeat.Layout
