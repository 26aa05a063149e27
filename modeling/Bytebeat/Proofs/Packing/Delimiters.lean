import Bytebeat.Proofs.Packing.Grammar

namespace Bytebeat.Packing

def forms : List (Text × Text) := [("\x60", "\x60"), ("('", "')"), ("(\"", "\")"), ("(\x60", "\x60)")]

def allForms : List (Text × Text) := openings.flatMap fun opening => closings.map fun closing => (opening, closing)

def mixedForms : List (Text × Text) := allForms.filter fun pair => pair ∉ forms

/-- A text is a wrapper around a payload, between one of the given pairs of delimiters. -/
def SpellsIn (pairs : List (Text × Text)) (t payload : Text) : Prop :=
  ∃ pair ∈ pairs, ∃ first ∈ quotes, ∃ second ∈ quotes,
    t = "eval(unescape(escape" ++ pair.1 ++ payload ++ ending pair.2 first second

abbrev Matched (t payload : Text) : Prop := SpellsIn forms t payload

abbrev Mixed (t payload : Text) : Prop := SpellsIn mixedForms t payload

variable {pairs : List (Text × Text)} {t p q : Text}

theorem mem_forms_iff {opener closer : Delimiter} : (opener.opening, closer.closing) ∈ forms ↔ opener = closer := by
  cases opener with
  | bare =>
      cases closer with
      | bare => decide
      | call r => cases r <;> decide
  | call q =>
      cases closer with
      | bare => cases q <;> decide
      | call r => cases q <;> cases r <;> decide

theorem mem_allForms_iff {pair : Text × Text} :
    pair ∈ allForms ↔ ∃ opener closer : Delimiter, pair = (opener.opening, closer.closing) := by
  simp only [allForms, List.mem_flatMap, List.mem_map, mem_openings_iff, mem_closings_iff]
  constructor
  · rintro ⟨_, ⟨opener, rfl⟩, _, ⟨closer, rfl⟩, rfl⟩
    exact ⟨opener, closer, rfl⟩
  · rintro ⟨opener, closer, rfl⟩
    exact ⟨_, ⟨opener, rfl⟩, _, ⟨closer, rfl⟩, rfl⟩

theorem spellsIn_iff (known : pairs ⊆ allForms) : SpellsIn pairs t p ↔
    ∃ w : Wrapper, (w.opener.opening, w.closer.closing) ∈ pairs ∧ w.payload = p ∧ t = w.render := by
  constructor
  · rintro ⟨pair, mem, first, isFirst, second, isSecond, rfl⟩
    obtain ⟨opener, closer, rfl⟩ := mem_allForms_iff.mp (known mem)
    obtain ⟨first, rfl⟩ := mem_quotes_iff.mp isFirst
    obtain ⟨second, rfl⟩ := mem_quotes_iff.mp isSecond
    exact ⟨{ payload := p, opener, closer, first, second }, mem, rfl, rfl⟩
  · rintro ⟨w, mem, rfl, rfl⟩
    exact ⟨_, mem, _, mem_quotes_iff.mpr ⟨w.first, rfl⟩, _, mem_quotes_iff.mpr ⟨w.second, rfl⟩, rfl⟩

theorem matched_iff : Matched t p ↔ ∃ w : Wrapper, w.opener = w.closer ∧ w.payload = p ∧ t = w.render := by
  rw [Matched, spellsIn_iff (by decide)]
  simp only [mem_forms_iff]

theorem mixed_iff : Mixed t p ↔ ∃ w : Wrapper, w.opener ≠ w.closer ∧ w.payload = p ∧ t = w.render := by
  have known (w : Wrapper) : (w.opener.opening, w.closer.closing) ∈ allForms :=
    mem_allForms_iff.mpr ⟨_, _, rfl⟩
  have within : mixedForms ⊆ allForms := List.filter_sublist.subset
  rw [Mixed, spellsIn_iff within]
  simp only [mixedForms, List.mem_filter, known, true_and, decide_eq_true_eq, mem_forms_iff, ne_eq]

theorem spells_iff_matched_or_mixed : Spells t p ↔ Matched t p ∨ Mixed t p := by
  rw [spells_iff, matched_iff, mixed_iff]
  constructor
  · rintro ⟨w, payload, written⟩
    by_cases same : w.opener = w.closer
    · exact .inl ⟨w, same, payload, written⟩
    · exact .inr ⟨w, same, payload, written⟩
  · rintro (⟨w, -, payload, written⟩ | ⟨w, -, payload, written⟩)
    · exact ⟨w, payload, written⟩
    · exact ⟨w, payload, written⟩

theorem not_matched_of_mixed (mixed : Mixed t p) : ¬ Matched t q := by
  intro matched
  obtain ⟨w, other, -, rfl⟩ := mixed_iff.mp mixed
  obtain ⟨v, same, -, again⟩ := matched_iff.mp matched
  rw [← Wrapper.render_injective again] at same
  exact other same

end Bytebeat.Packing
