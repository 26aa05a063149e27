import Bytebeat.Proofs.Packing.Collapse
import Bytebeat.Proofs.Packing.Grammar

namespace Bytebeat.Packing

def spacedEnding (closing : Text) (first second : CodePoint) : Text :=
  closing ++ ".replace(/u(..)/g, " ++ [first] ++ "$1%" ++ [second] ++ ")))"

/-- A text is a wrapper but for a space after the comma of its replace call. -/
def Spaced (t : Text) : Prop :=
  ∃ payload, ∃ opening ∈ openings, ∃ closing ∈ closings, ∃ first ∈ quotes, ∃ second ∈ quotes,
    t = "eval(unescape(escape" ++ opening ++ payload ++ spacedEnding closing first second

namespace Wrapper

variable {w : Wrapper}

/-! ## The comma of a wrapper -/

def front (w : Wrapper) : Text := head ++ w.opener.opening

def call (w : Wrapper) : Text := w.closer.closing ++ ".replace(/u(..)/g"

def marks (w : Wrapper) : Text := [w.first.sign] ++ replacement ++ [w.second.sign] ++ tail

def spell (w : Wrapper) (comma : Text) : Text := w.front ++ (w.payload ++ (w.call ++ (comma ++ w.marks)))

theorem render_eq_spell (w : Wrapper) : w.render = w.spell "," := by
  have comma : replaceCall = ".replace(/u(..)/g" ++ (",": Text) := rfl
  simp only [render, ending, comma, spell, front, call, marks, List.append_assoc]

theorem spaced_iff {t : Text} : Spaced t ↔ ∃ w : Wrapper, t = w.spell ", " := by
  have comma : (".replace(/u(..)/g, " : Text) = ".replace(/u(..)/g" ++ (", " : Text) := rfl
  simp only [Spaced, mem_openings_iff, mem_closings_iff, mem_quotes_iff, spacedEnding, comma, spell, front, call,
    marks, head, replacement, tail, List.append_assoc]
  constructor
  · rintro ⟨payload, _, ⟨opener, rfl⟩, _, ⟨closer, rfl⟩, _, ⟨first, rfl⟩, _, ⟨second, rfl⟩, rfl⟩
    exact ⟨{ payload, opener, closer, first, second }, rfl⟩
  · rintro ⟨w, rfl⟩
    exact ⟨w.payload, _, ⟨w.opener, rfl⟩, _, ⟨w.closer, rfl⟩, _, ⟨w.first, rfl⟩, _, ⟨w.second, rfl⟩, rfl⟩

theorem comma_not_mem_front : (',' : CodePoint) ∉ w.front := by
  cases opener : w.opener with
  | bare => rw [front, opener]; decide
  | call q => rw [front, opener]; cases q <;> decide

theorem comma_not_mem_call : (',' : CodePoint) ∉ w.call := by
  cases closer : w.closer with
  | bare => rw [call, closer]; decide
  | call q => rw [call, closer]; cases q <;> decide

theorem comma_not_mem_marks : (',' : CodePoint) ∉ w.marks := by
  rw [marks]
  cases w.first <;> cases w.second <;> decide

/-! ## Through the collapse -/

theorem head?_call (w : Wrapper) (t : Text) : (w.call ++ t).head? ≠ some (' ' : CodePoint) := by
  cases closer : w.closer with
  | bare => simp +decide [call, closer, Delimiter.closing]
  | call q => cases q <;> simp +decide [call, closer, Delimiter.closing, Quote.sign]

theorem head?_marks (w : Wrapper) : w.marks.head? ≠ some (' ' : CodePoint) := by
  cases first : w.first <;> simp +decide [marks, first, Quote.sign]

theorem collapse_comma_marks (w : Wrapper) {comma : Text} (isComma : comma = "," ∨ comma = ", ") :
    collapse (comma ++ w.marks) = "," ++ w.marks := by
  have marks := collapse_of_no_comma (comma_not_mem_marks (w := w))
  rcases isComma with rfl | rfl
  · rw [collapse_append (.inr w.head?_marks), marks]
    rfl
  · rw [collapse_append (.inl (by decide)), marks]
    rfl

theorem collapse_spell (w : Wrapper) {comma : Text} (isComma : comma = "," ∨ comma = ", ") :
    collapse (w.spell comma) = { w with payload := collapse w.payload }.render := by
  rw [render_eq_spell, spell, collapse_append_of_no_comma comma_not_mem_front,
    collapse_append (.inr (w.head?_call _)), collapse_append_of_no_comma comma_not_mem_call,
    w.collapse_comma_marks isComma]
  rfl

theorem eq_spell_of_collapse {t : Text} (collapsed : collapse t = w.render) :
    ∃ v : Wrapper, t = v.spell "," ∨ t = v.spell ", " := by
  rw [render_eq_spell] at collapsed
  obtain ⟨s₁, r₁, rfl, atFront, collapsed⟩ := exists_of_collapse_eq_append collapsed
  obtain ⟨payload, r₂, rfl, -, collapsed⟩ := exists_of_collapse_eq_append collapsed
  obtain ⟨s₂, r₃, rfl, atCall, collapsed⟩ := exists_of_collapse_eq_append collapsed
  obtain ⟨s₃, s₄, rfl, atComma, atMarks⟩ := exists_of_collapse_eq_append collapsed
  rw [eq_of_collapse_of_no_comma atFront comma_not_mem_front, eq_of_collapse_of_no_comma atCall comma_not_mem_call,
    eq_of_collapse_of_no_comma atMarks comma_not_mem_marks]
  refine ⟨{ w with payload }, ?_⟩
  rcases eq_of_collapse_eq_comma atComma with rfl | rfl
  · exact .inl rfl
  · exact .inr rfl

theorem spell_ne_render (w v : Wrapper) {comma : Text} {c : CodePoint} (last : comma.getLast? = some c)
    (other : c ≠ ',') : w.spell comma ≠ v.render := by
  intro same
  rw [render_eq_spell] at same
  simp only [spell, ← List.append_assoc] at same
  obtain ⟨before, -⟩ := List.append_inj' same rfl
  have ends : (w.front ++ w.payload ++ w.call ++ comma).getLast? = some c := by
    rw [List.getLast?_append, last]
    rfl
  have endsWithComma : (v.front ++ v.payload ++ v.call ++ ("," : Text)).getLast? = some (',' : CodePoint) :=
    List.getLast?_append
  rw [before, endsWithComma] at ends
  exact other (Option.some.inj ends).symm

theorem getLast?_spell (w : Wrapper) (comma : Text) : (w.spell comma).getLast? = some (')' : CodePoint) := by
  simp only [spell, marks, ← List.append_assoc, List.getLast?_append]
  rfl

theorem trim_spell (w : Wrapper) (comma : Text) : (w.spell comma).trim = w.spell comma :=
  Text.trimWhere_of_ends rfl (w.getLast?_spell comma) (by decide) (by decide)

end Wrapper

/-! ## Wrappers among normal code -/

theorem not_isPacked_of_spell {code comma : Text} {c : CodePoint} (last : comma.getLast? = some c) (other : c ≠ ',')
    {w : Wrapper} (written : code.trim = w.spell comma) : isPacked code = false := by
  apply Bool.eq_false_iff.mpr
  rw [ne_eq, isPacked_iff]
  rintro ⟨v, again⟩
  exact w.spell_ne_render v last other (written.symm.trans again)

theorem trim_pad (t : Text) : (pad t).trim = t.trim := by
  have blank : ∀ c ∈ (" " : Text), c.isBlank = true := by decide
  unfold pad
  split
  · exact Text.trimWhere_append blank t
  · rfl

theorem comma_not_mem_of_blank {t : Text} (blank : ∀ c ∈ t, c.isBlank = true) : (',' : CodePoint) ∉ t :=
  fun mem => absurd (blank _ mem) (by decide)

theorem collapse_between {front back t : Text} (ahead : ∀ c ∈ front, c.isBlank = true)
    (behind : ∀ c ∈ back, c.isBlank = true) (last : t.getLast? ≠ some (',' : CodePoint)) :
    collapse (front ++ t ++ back) = front ++ collapse t ++ back := by
  rw [List.append_assoc, collapse_append_of_no_comma (comma_not_mem_of_blank ahead), collapse_append (.inl last),
    collapse_of_no_comma (comma_not_mem_of_blank behind), List.append_assoc]

theorem exists_of_collapse_between {front back t x : Text} (ahead : ∀ c ∈ front, c.isBlank = true)
    (behind : ∀ c ∈ back, c.isBlank = true) (collapsed : collapse t = front ++ x ++ back) :
    ∃ s, t = front ++ s ++ back ∧ collapse s = x := by
  obtain ⟨_, s₃, rfl, collapsed, atBack⟩ := exists_of_collapse_eq_append collapsed
  obtain ⟨s₁, s, rfl, atFront, inside⟩ := exists_of_collapse_eq_append collapsed
  rw [eq_of_collapse_of_no_comma atFront (comma_not_mem_of_blank ahead),
    eq_of_collapse_of_no_comma atBack (comma_not_mem_of_blank behind)]
  exact ⟨s, rfl, inside⟩

theorem isPacked_normalize_of_trim {code comma : Text} (isComma : comma = "," ∨ comma = ", ") {w : Wrapper}
    (written : code.trim = w.spell comma) : isPacked (normalize code) = true := by
  obtain ⟨front, back, ahead, behind, parts⟩ := Text.exists_of_trimWhere CodePoint.isBlank (pad code)
  have inside : (pad code).trimWhere CodePoint.isBlank = w.spell comma := (trim_pad code).trans written
  have last : (w.spell comma).getLast? ≠ some (',' : CodePoint) := by
    rw [w.getLast?_spell]
    decide
  rw [isPacked_iff, normalize, trim_pad, parts, inside, collapse_between ahead behind last, w.collapse_spell isComma]
  exact ⟨_, (Text.trimWhere_between ahead behind _).trans (Wrapper.trim_render _)⟩

theorem isPacked_normalize_iff (code : Text) :
    isPacked (normalize code) = true ↔ isPacked code = true ∨ Spaced code.trim := by
  rw [isPacked_iff, isPacked_iff, Wrapper.spaced_iff]
  constructor
  · rintro ⟨w, written⟩
    rw [normalize, trim_pad] at written
    obtain ⟨front, back, ahead, behind, parts⟩ := Text.exists_of_trimWhere CodePoint.isBlank (collapse (pad code))
    have inside : (collapse (pad code)).trimWhere CodePoint.isBlank = w.render := written
    rw [inside] at parts
    -- The blanks around the wrapper hold no comma, so they stood around what collapsed to it.
    obtain ⟨s, around, collapsed⟩ := exists_of_collapse_between ahead behind parts
    have trimmed : code.trim = s.trim := by
      rw [← trim_pad, around]
      exact Text.trimWhere_between ahead behind s
    obtain ⟨v, rfl | rfl⟩ := Wrapper.eq_spell_of_collapse collapsed
    · exact .inl ⟨v, by rw [trimmed, v.trim_spell, v.render_eq_spell]⟩
    · exact .inr ⟨v, by rw [trimmed, v.trim_spell]⟩
  · rintro (⟨w, written⟩ | ⟨w, written⟩)
    · rw [← isPacked_iff]
      exact isPacked_normalize_of_trim (.inl rfl) (written.trans w.render_eq_spell)
    · rw [← isPacked_iff]
      exact isPacked_normalize_of_trim (.inr rfl) written

end Bytebeat.Packing
