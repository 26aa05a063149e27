import Bytebeat.Tool.Basic

namespace Bytebeat

theorem Arguments.given?_eq_some_iff {args : Arguments} {name : Text} {v : Value} :
    args.given? name = some v ↔ args.get? name = some v ∧ v.isNull = false := by
  simp [given?, Option.filter_eq_some_iff]

namespace Parameter

theorem fault?_eq_none_iff {p : Parameter} {args : Arguments} : p.fault? args = none ↔
    (p.required = true → args.given? p.name ≠ none) ∧ ∀ v, args.given? p.name = some v → v.kind = p.kind := by
  unfold fault?
  cases given : args.given? p.name with
  | none => simp
  | some v => simp

theorem get?_fill (args : Arguments) (p : Parameter) (name : Text) : (p.fill args).get? name =
    if name = p.name ∧ args.given? p.name = none ∧ p.required = false then some p.default else args.get? name := by
  unfold fill
  by_cases omitted : args.given? p.name = none ∧ p.required = false
  · simp [omitted, Table.get?_insert]
  · rw [if_neg, if_neg]
    · exact fun both => omitted both.2
    · simpa using omitted

end Parameter

namespace Tool

/-- No name is unknown, no required parameter is omitted, and every given value is of its parameter's kind. -/
structure Accepts (tool : Tool) (args : Arguments) : Prop where
  known : ∀ name ∈ args.names, name ∈ tool.parameters.map Parameter.name
  present : ∀ p ∈ tool.parameters, p.required = true → args.given? p.name ≠ none
  kinds : ∀ p ∈ tool.parameters, ∀ v, args.given? p.name = some v → v.kind = p.kind

theorem unknownNames_eq_nil_iff {tool : Tool} {args : Arguments} :
    tool.unknownNames args = [] ↔ ∀ name ∈ args.names, name ∈ tool.parameters.map Parameter.name := by
  have sorted : ∀ names : List Text, names.mergeSort Text.le = [] ↔ names = [] := by
    intro names
    rw [← List.length_eq_zero_iff, List.length_mergeSort, List.length_eq_zero_iff]
  rw [unknownNames, sorted, List.filter_eq_nil_iff]
  simp

theorem fault?_eq_none_iff {tool : Tool} {args : Arguments} : tool.fault? args = none ↔ tool.Accepts args := by
  have known : tool.unknownNames args = [] ↔ _ := unknownNames_eq_nil_iff
  unfold fault?
  split
  · rename_i none
    simp only [List.findSome?_eq_none_iff, Parameter.fault?_eq_none_iff]
    constructor
    · intro fits
      exact ⟨known.mp none, fun p mem => (fits p mem).1, fun p mem => (fits p mem).2⟩
    · intro accepts p mem
      exact ⟨accepts.present p mem, accepts.kinds p mem⟩
  · rename_i some
    refine iff_of_false (by simp) fun accepts => some (known.mpr accepts.known)

/-! ## Defaults -/

theorem get?_foldl_fill_of_not_mem {ps : List Parameter} {name : Text} (other : name ∉ ps.map Parameter.name)
    (args : Arguments) : (ps.foldl Parameter.fill args).get? name = args.get? name := by
  induction ps generalizing args with
  | nil => rfl
  | cons p ps ih =>
      rw [List.map_cons, List.mem_cons, not_or] at other
      rw [List.foldl_cons, ih other.2, Parameter.get?_fill, if_neg fun both => other.1 both.1]

theorem get?_foldl_fill {ps : List Parameter} (distinct : (ps.map Parameter.name).Nodup) {p : Parameter} (mem : p ∈ ps)
    (args : Arguments) : (ps.foldl Parameter.fill args).get? p.name =
      if args.given? p.name = none ∧ p.required = false then some p.default else args.get? p.name := by
  induction ps generalizing args with
  | nil => cases mem
  | cons q ps ih =>
      rw [List.map_cons, List.nodup_cons] at distinct
      rw [List.foldl_cons]
      rcases List.mem_cons.mp mem with rfl | later
      · rw [get?_foldl_fill_of_not_mem distinct.1, Parameter.get?_fill]
        simp
      · have apart : p.name ≠ q.name := fun same => distinct.1 (same ▸ List.mem_map_of_mem later)
        have unchanged : (q.fill args).get? p.name = args.get? p.name := by
          rw [Parameter.get?_fill, if_neg fun both => apart both.1]
        rw [ih distinct.2 later, Arguments.given?, unchanged, ← Arguments.given?]

theorem get?_withDefaults_required {tool : Tool} (distinct : (tool.parameters.map Parameter.name).Nodup)
    {p : Parameter} (mem : p ∈ tool.parameters) (required : p.required = true) (args : Arguments) :
    (tool.withDefaults args).get? p.name = args.get? p.name := by
  rw [withDefaults, get?_foldl_fill distinct mem, required]
  simp

theorem get?_withDefaults_optional {tool : Tool} (distinct : (tool.parameters.map Parameter.name).Nodup)
    {p : Parameter} (mem : p ∈ tool.parameters) (optional : p.required = false) (args : Arguments) :
    (tool.withDefaults args).get? p.name = some ((args.given? p.name).getD p.default) := by
  rw [withDefaults, get?_foldl_fill distinct mem, optional]
  cases given : args.given? p.name with
  | none => simp
  | some v => simpa using (Arguments.given?_eq_some_iff.mp given).1

end Tool
end Bytebeat
