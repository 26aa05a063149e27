import Bytebeat.Proofs.Layout.Breaks

/-!
The verdict of a layout pass: whether the brackets outside literals balance, and which kind is at fault if not.

A pass comes to the same verdict under all configs (`verdict_scan`). The scan is at fault at the first closing bracket
without an opener, where the text so far has for the first time more of its closing brackets than of its opening
ones. If there is none, what counts is what is still open at the end, arrays before parentheses. Each of the two
kinds is counted as if the other were not there.
-/

namespace Bytebeat.Layout

def Outcome.verdict (o : Outcome) : Except Imbalance Unit := o.map fun _ => ()

def State.verdict (s : State) : Text → Except Imbalance Unit
  | [] => s.finish
  | c :: rest => (s.step c).bind fun s' => s'.verdict rest

theorem verdict_scan (config : Config) (s : State) (done code : Text) :
    (scan config s done code).verdict = s.verdict code := by
  induction code generalizing s done with
  | nil =>
      simp only [scan, State.verdict]
      cases s.finish <;> rfl
  | cons c rest ih =>
      simp only [scan, State.verdict]
      cases s.step c with
      | error => rfl
      | ok s' => exact ih s' _

theorem verdict_format (config : Config) (text : Text) : (format config text).verdict = State.verdict {} text :=
  verdict_scan config {} [] text

theorem Outcome.verdict_eq_error_iff {o : Outcome} {i : Imbalance} : o.verdict = .error i ↔ o = .error i := by
  cases o <;> simp [verdict, Except.map]

namespace Imbalance

def opening : Imbalance → CodePoint
  | array => '['
  | parenthesis => '('

def closing : Imbalance → CodePoint
  | array => ']'
  | parenthesis => ')'

theorem closing_ne_opening (i k : Imbalance) : i.closing ≠ k.opening := by
  cases i <;> cases k <;> decide

theorem closing_injective {i k : Imbalance} (same : i.closing = k.closing) : i = k := by
  cases i <;> cases k <;> first | rfl | exact absurd same (by decide)

theorem reason_injective {i k : Imbalance} (same : i.reason = k.reason) : i = k := by
  have found := ofReason?_reason i
  rw [same, ofReason?_reason] at found
  exact (Option.some.inj found).symm

end Imbalance

def level (i : Imbalance) (t : Text) : Int := depth i.opening i.closing t

def Nested (t : Text) : Prop := ∀ p, p <+: t → ∀ i, 0 ≤ level i p

structure Balanced (t : Text) : Prop where
  nested : Nested t
  closed : ∀ i, level i t = 0

/-- Brackets of this kind are the ones to name. -/
inductive Fault (t : Text) : Imbalance → Prop where
  /-- The shortest beginning that has more closing than opening brackets of a kind ends with one of that kind. -/
  | unopened {p : Text} {i : Imbalance} (here : p ++ [i.closing] <+: t) (shortest : Nested p)
      (outrun : level i (p ++ [i.closing]) < 0) : Fault t i
  | openArray (nested : Nested t) (unclosed : 0 < level .array t) : Fault t .array
  | openParenthesis (nested : Nested t) (arrays : level .array t = 0) (unclosed : 0 < level .parenthesis t) :
      Fault t .parenthesis

theorem level_concat (i : Imbalance) (t : Text) (c : CodePoint) :
    level i (t ++ [c]) = level i t + (if c = i.opening then 1 else 0) - (if c = i.closing then 1 else 0) :=
  depth_concat _ _ t c

theorem nested_nil : Nested [] := by
  intro p start i
  rw [List.prefix_nil.mp start]
  exact Int.le_refl 0

theorem Nested.level_nonneg {t : Text} (nested : Nested t) (i : Imbalance) : 0 ≤ level i t :=
  nested t (List.prefix_refl t) i

theorem Nested.of_prefix {s t : Text} (nested : Nested t) (start : s <+: t) : Nested s :=
  fun p inner => nested p (inner.trans start)

theorem nested_concat_iff {t : Text} {c : CodePoint} :
    Nested (t ++ [c]) ↔ Nested t ∧ ∀ i, 0 ≤ level i (t ++ [c]) := by
  constructor
  · intro nested
    exact ⟨nested.of_prefix (List.prefix_append t [c]), nested.level_nonneg⟩
  · rintro ⟨nested, whole⟩ p start
    rcases List.prefix_concat_iff.mp start with rfl | inner
    · exact whole
    · exact nested p inner

/-! ## One verdict for each text -/

variable {t p q : Text} {i k : Imbalance}

theorem not_nested_of_outrun (here : p ++ [i.closing] <+: t) (outrun : level i (p ++ [i.closing]) < 0) :
    ¬ Nested t := by
  intro nested
  have := nested _ here i
  omega

theorem eq_of_outrun_start (outrun : level i (p ++ [i.closing]) < 0) (shortest : Nested q)
    (start : p ++ [i.closing] <+: q ++ [k.closing]) : i = k := by
  rcases List.prefix_concat_iff.mp start with same | inner
  · exact Imbalance.closing_injective (List.singleton_inj.mp (List.append_inj_right' same rfl))
  · exact absurd shortest (not_nested_of_outrun inner outrun)

theorem Fault.not_balanced (fault : Fault t i) : ¬ Balanced t := by
  rintro ⟨nested, closed⟩
  cases fault with
  | unopened here _ outrun => exact not_nested_of_outrun here outrun nested
  | openArray _ unclosed =>
      have := closed .array
      omega
  | openParenthesis _ _ unclosed =>
      have := closed .parenthesis
      omega

theorem Fault.unique (fault : Fault t i) (other : Fault t k) : i = k := by
  cases fault with
  | unopened here shortest outrun =>
      cases other with
      | unopened there shortestThere outrunThere =>
          -- Of the two beginnings one starts the other, and the longer one could not be the shortest.
          rcases List.prefix_or_prefix_of_prefix here there with first | first
          · exact eq_of_outrun_start outrun shortestThere first
          · exact (eq_of_outrun_start outrunThere shortest first).symm
      | openArray nested => exact absurd nested (not_nested_of_outrun here outrun)
      | openParenthesis nested => exact absurd nested (not_nested_of_outrun here outrun)
  | openArray nested unclosed =>
      cases other with
      | unopened there _ outrunThere => exact absurd nested (not_nested_of_outrun there outrunThere)
      | openArray => rfl
      | openParenthesis _ arrays => omega
  | openParenthesis nested arrays =>
      cases other with
      | unopened there _ outrunThere => exact absurd nested (not_nested_of_outrun there outrunThere)
      | openArray _ unclosed => omega
      | openParenthesis => rfl

/-! ## The verdict of a scan -/

def Justified (t : Text) : Except Imbalance Unit → Prop
  | .ok _ => Balanced t
  | .error i => Fault t i

def State.opened (s : State) : Imbalance → Nat
  | .array => s.arrays
  | .parenthesis => s.parens

variable {before rest : Text} {c : CodePoint} {s s' : State}

theorem Reached.opened (reached : Reached before s) (i : Imbalance) :
    (s.opened i : Int) = level i (bare afterBackslash before) := by
  cases i with
  | array => exact reached.arrays
  | parenthesis => exact reached.parens

theorem outside_eq_error (failed : s.outside c = .error i) : c = i.closing ∧ s.opened i = 0 := by
  simp only [State.outside] at failed
  repeat' split at failed
  all_goals cases failed
  · exact ⟨‹c = ')'›, ‹s.parens = 0›⟩
  · exact ⟨‹c = ']'›, ‹s.arrays = 0›⟩

theorem step_eq_error (failed : s.step c = .error i) : s.literal = none ∧ c = i.closing ∧ s.opened i = 0 := by
  unfold State.step at failed
  split at failed
  · cases failed
  · rename_i free
    exact ⟨free, outside_eq_error failed⟩

theorem isQuote_closing (i : Imbalance) : isQuote i.closing = false := by
  cases i <;> decide

theorem Reached.fault (reached : Reached before s) (nested : Nested (bare afterBackslash before))
    (failed : s.step c = .error i) : Fault (bare afterBackslash (before ++ c :: rest)) i := by
  obtain ⟨free, rfl, nothingOpen⟩ := step_eq_error failed
  have outside := (concat_of_free (reached.literal_eq_none_iff.mp free) i.closing).2
  rw [isQuote_closing, if_neg Bool.false_ne_true] at outside
  have here := bare_prefix afterBackslash (before ++ [i.closing]) rest
  rw [List.append_assoc, List.singleton_append, outside] at here
  refine .unopened here nested ?_
  rw [level_concat, if_neg (i.closing_ne_opening i), if_pos rfl, ← reached.opened, nothingOpen]
  decide

theorem Reached.nested_step (reached : Reached before s) (nested : Nested (bare afterBackslash before))
    (moved : s.step c = .ok s') : Nested (bare afterBackslash (before ++ [c])) := by
  have whole (i : Imbalance) : 0 ≤ level i (bare afterBackslash (before ++ [c])) := by
    rw [← (reached.step moved).opened]
    exact Int.natCast_nonneg _
  rcases bare_concat afterBackslash before c with same | longer
  · exact same ▸ nested
  · rw [longer] at whole ⊢
    exact nested_concat_iff.mpr ⟨nested, whole⟩

theorem Reached.finish (reached : Reached before s) (nested : Nested (bare afterBackslash before)) :
    Justified (bare afterBackslash before) s.finish := by
  have arrays : (s.arrays : Int) = level .array (bare afterBackslash before) := reached.arrays
  have parens : (s.parens : Int) = level .parenthesis (bare afterBackslash before) := reached.parens
  unfold State.finish
  split
  · exact .openArray nested (by omega)
  · split
    · exact .openParenthesis nested (by omega) (by omega)
    · refine ⟨nested, fun i => ?_⟩
      cases i with
      | array => omega
      | parenthesis => omega

theorem Reached.verdict (reached : Reached before s) (nested : Nested (bare afterBackslash before)) :
    Justified (bare afterBackslash (before ++ rest)) (s.verdict rest) := by
  induction rest generalizing before s with
  | nil =>
      rw [List.append_nil]
      exact reached.finish nested
  | cons c rest ih =>
      unfold State.verdict
      cases moved : s.step c with
      | error i => exact reached.fault nested moved
      | ok s' =>
          have later := ih (reached.step moved) (reached.nested_step nested moved)
          rwa [List.append_assoc, List.singleton_append] at later

theorem justified_verdict (config : Config) (text : Text) :
    Justified (bare afterBackslash text) (format config text).verdict := by
  rw [verdict_format]
  exact reached_start.verdict (by rw [bare]; exact nested_nil)

theorem format_succeeds_iff_balanced (config : Config) (text : Text) :
    ((∃ out, format config text = .ok out) ↔ Balanced (bare afterBackslash text)) ∧
    (∀ i, (format config text).reason? = some i.reason ↔ Fault (bare afterBackslash text) i) ∧
    ∀ other, (format other text).verdict = (format config text).verdict := by
  have justified := justified_verdict config text
  refine ⟨?_, ?_, fun other => by rw [verdict_format, verdict_format]⟩
  · cases ran : format config text with
    | ok out =>
        rw [ran] at justified
        exact iff_of_true ⟨out, rfl⟩ justified
    | error k =>
        rw [ran] at justified
        refine iff_of_false ?_ justified.not_balanced
        rintro ⟨out, ended⟩
        cases ended
  · intro i
    cases ran : format config text with
    | ok out =>
        rw [ran] at justified
        refine iff_of_false ?_ fun fault => fault.not_balanced justified
        simp [Outcome.reason?]
    | error k =>
        rw [ran] at justified
        rw [Outcome.reason?, Option.some.injEq]
        constructor
        · intro same
          exact Imbalance.reason_injective same ▸ justified
        · intro fault
          rw [justified.unique fault]

example : format .topLevel "']',([)]" = .ok "']',\n([)]" := rfl

end Bytebeat.Layout
