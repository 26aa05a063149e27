import Bytebeat.Proofs.Tool.Answers
import Bytebeat.Proofs.Tool.CodeArgument

namespace Bytebeat

def Arguments.withNull (args : Arguments) (name : Text) : Arguments := args.insert name .null

/-- What the tool does depends on what its arguments hold under each name, and not on their order. -/
def Tool.GoesByName (tool : Tool) : Prop :=
  ∀ args again : Arguments, (∀ name, args.get? name = again.get? name) → tool.execute args = tool.execute again

namespace Tool

theorem goesByName_of_builtin {tool : Tool} (builtin : tool ∈ builtin) : tool.GoesByName := by
  intro args again same
  have text (name : Text) (next : Text → Execution) : withText args name next = withText again name next := by
    rw [withText, withText, same]
  have flag (name : Text) (next : Bool → Execution) : withFlag args name next = withFlag again name next := by
    rw [withFlag, withFlag, same]
  have value (name : Text) (next : Value → Execution) : withValue args name next = withValue again name next := by
    rw [withValue, withValue, same]
  simp only [Tool.builtin, List.mem_cons, List.not_mem_nil, or_false] at builtin
  rcases builtin with rfl | rfl | rfl | rfl
  · simp only [codeSize, text, flag]
  · simp only [formatCode, text, value]
  · exact text _ _
  · exact text _ _

/-! ## One null argument more -/

variable {tool : Tool} {args : Arguments} {k : Text} {p : Parameter}

theorem given?_withNull (new : k ∉ args.names) (name : Text) : (args.withNull k).given? name = args.given? name := by
  rw [Arguments.given?, Arguments.withNull, Table.get?_insert, Arguments.given?]
  by_cases here : name = k
  · rw [if_pos here, here, Table.get?_eq_none_iff.mpr new]
    rfl
  · rw [if_neg here]

theorem names_withNull (new : k ∉ args.names) : (args.withNull k).names = args.names ++ [k] := by
  rw [Arguments.withNull, Table.names_insert, if_neg new]

theorem free_withNull (new : k ∉ args.names) (free : reservedName ∉ args.names) (plain : k ≠ reservedName) :
    reservedName ∉ (args.withNull k).names := by
  rw [names_withNull new, List.mem_append, List.mem_singleton, not_or]
  exact ⟨free, plain.symm⟩

theorem unknownNames_withNull (new : k ∉ args.names) (declared : k ∈ tool.declared) :
    tool.unknownNames (args.withNull k) = tool.unknownNames args := by
  have known : ((tool.parameters.map Parameter.name).contains k) = true := List.contains_iff_mem.mpr declared
  rw [unknownNames, unknownNames, names_withNull new, List.filter_append,
    List.filter_cons_of_neg (by rw [known]; decide), List.filter_nil, List.append_nil]

theorem fault?_withNull (new : k ∉ args.names) (declared : k ∈ tool.declared) :
    tool.fault? (args.withNull k) = tool.fault? args := by
  have faults : ∀ p : Parameter, p.fault? (args.withNull k) = p.fault? args := by
    intro p
    rw [Parameter.fault?, Parameter.fault?, given?_withNull new]
  rw [fault?, fault?, unknownNames_withNull new declared]
  simp only [faults]

theorem accepts_withNull_iff (new : k ∉ args.names) (declared : k ∈ tool.declared) :
    tool.Accepts (args.withNull k) ↔ tool.Accepts args := by
  rw [← fault?_eq_none_iff, fault?_withNull new declared, fault?_eq_none_iff]

theorem get?_withNull_of_ne {name : Text} (other : name ≠ k) : (args.withNull k).get? name = args.get? name := by
  rw [Arguments.withNull, Table.get?_insert, if_neg other]

theorem get?_withDefaults_withNull (distinct : tool.declared.Nodup) (mem : p ∈ tool.parameters)
    (new : p.name ∉ args.names) (name : Text) :
    (tool.withDefaults (args.withNull p.name)).get? name =
      if name = p.name ∧ p.required = true then some .null else (tool.withDefaults args).get? name := by
  by_cases here : name = p.name
  · subst here
    cases required : p.required with
    | true =>
        rw [get?_withDefaults_required distinct mem required, if_pos ⟨rfl, rfl⟩, Arguments.withNull, Table.get?_insert,
          if_pos rfl]
    | false =>
        rw [get?_withDefaults_optional distinct mem required, get?_withDefaults_optional distinct mem required,
          given?_withNull new, if_neg fun both => Bool.false_ne_true both.2]
  · rw [if_neg fun both => here both.1]
    by_cases declared : name ∈ tool.declared
    · obtain ⟨q, isParameter, rfl⟩ := List.mem_map.mp declared
      rw [withDefaults, withDefaults, get?_foldl_fill distinct isParameter, get?_foldl_fill distinct isParameter,
        given?_withNull new, get?_withNull_of_ne here]
    · rw [withDefaults, withDefaults, get?_foldl_fill_of_not_mem declared, get?_foldl_fill_of_not_mem declared,
        get?_withNull_of_ne here]

/-! ## Calls -/

/-- Whether a call is refused or executed, and on which values, does not depend on whether null is given or omitted. -/
structure CallsAlike (tool : Tool) (args again : Arguments) : Prop where
  refused : ¬ tool.Accepts args → ∃ run, tool.call args = .ok run ∧ tool.call again = .ok run
  executed : tool.Accepts args → ∃ received same, tool.Executes args received ∧ tool.Executes again same ∧
    ∀ name, received.get? name = same.get? name
  called : tool.GoesByName → ∃ run, tool.call args = .ok run ∧ tool.call again = .ok run

theorem call_of_fault? (free : reservedName ∉ args.names) {e : InputError} (fault : tool.fault? args = some e) :
    tool.call args = .ok (tool.reject e) := by
  rw [call_of_free free, run_of_fault? fault]

theorem callsAlike_withNull (distinct : tool.declared.Nodup) (unreserved : reservedName ∉ tool.declared)
    (free : reservedName ∉ args.names) (mem : p ∈ tool.parameters) (new : p.name ∉ args.names) :
    tool.CallsAlike args (args.withNull p.name) := by
  have declared : p.name ∈ tool.declared := List.mem_map_of_mem mem
  have freeToo : reservedName ∉ (args.withNull p.name).names :=
    free_withNull new free fun same => unreserved (same ▸ declared)
  cases fault : tool.fault? args with
  | some e =>
      have both : ∃ run, tool.call args = .ok run ∧ tool.call (args.withNull p.name) = .ok run :=
        ⟨_, call_of_fault? free fault, call_of_fault? freeToo (by rw [fault?_withNull new declared, fault])⟩
      refine ⟨fun _ => both, fun accepts => ?_, fun _ => both⟩
      rw [fault?_eq_none_iff.mpr accepts] at fault
      cases fault
  | none =>
      have accepts := fault?_eq_none_iff.mp fault
      have acceptsToo := (accepts_withNull_iff new declared).mpr accepts
      -- An omitted parameter is an optional one, so its null gives way to the default.
      have optional : p.required = false := by
        have omitted : args.given? p.name = none := by
          rw [Arguments.given?, Table.get?_eq_none_iff.mpr new]
          rfl
        exact Bool.eq_false_iff.mpr fun required => accepts.present p mem required omitted
      have same (name : Text) :
          (tool.withDefaults args).get? name = (tool.withDefaults (args.withNull p.name)).get? name := by
        rw [get?_withDefaults_withNull distinct mem new, optional, if_neg fun both => Bool.false_ne_true both.2]
      refine ⟨fun rejects => absurd accepts rejects, fun _ => ⟨_, _, executes_of_accepts unreserved accepts,
        executes_of_accepts unreserved acceptsToo, same⟩, fun goesByName => ?_⟩
      refine ⟨_, call_of_free free, ?_⟩
      rw [call_of_free freeToo, run_of_accepts accepts unreserved, run_of_accepts acceptsToo unreserved,
        goesByName _ _ same]

/-- Null for a declared name is as if it were omitted, and any argument under another name is refused. -/
theorem call_withNull (distinct : tool.declared.Nodup) (unreserved : reservedName ∉ tool.declared)
    (free : reservedName ∉ args.names) (new : k ∉ args.names) :
    (∀ p ∈ tool.parameters, p.name = k →
      tool.fault? (args.withNull k) = tool.fault? args ∧
      (∀ name, (tool.withDefaults (args.withNull k)).get? name =
        if name = k ∧ p.required = true then some .null else (tool.withDefaults args).get? name) ∧
      (p.required = true → (tool.withDefaults args).get? k = none) ∧
      tool.CallsAlike args (args.withNull k)) ∧
    (k ∉ tool.declared → k ≠ reservedName → ∃ names, k ∈ names ∧
      tool.Refuses (args.withNull k) ("Unknown parameter(s) for '" ++ tool.name ++ "': " ++ Text.join ", " names)) ∧
    (tool ∈ builtin → tool.GoesByName) := by
  refine ⟨?_, ?_, goesByName_of_builtin⟩
  · rintro p mem rfl
    refine ⟨fault?_withNull new (List.mem_map_of_mem mem), get?_withDefaults_withNull distinct mem new, ?_,
      callsAlike_withNull distinct unreserved free mem new⟩
    intro required
    rw [get?_withDefaults_required distinct mem required, Table.get?_eq_none_iff.mpr new]
  · intro undeclared plain
    have held : k ∈ (args.withNull k).names := by
      rw [names_withNull new]
      exact List.mem_append_right _ List.mem_cons_self
    have freeToo : reservedName ∉ (args.withNull k).names := free_withNull new free plain
    have unknown : k ∈ tool.unknownNames (args.withNull k) := mem_unknownNames_iff.mpr ⟨held, undeclared⟩
    refine ⟨_, unknown, refuses_of_fault? freeToo (e := .unknownNames tool.name _) ?_⟩
    unfold fault?
    split
    · rename_i none
      rw [none] at unknown
      cases unknown
    · rfl

theorem call_withNull_formatCode :
    let args : Arguments := .ofList [("code", .text "f(a,b)")]
    let nothing : Arguments := .empty
    formatCode.declared.Nodup ∧ reservedName ∉ formatCode.declared ∧ reservedName ∉ args.names ∧
    reservedName ∉ nothing.names ∧ ("consider_parens" : Text) ∉ args.names ∧ ("code" : Text) ∉ nothing.names ∧
    ("width" : Text) ∉ args.names ∧
    (∃ run, formatCode.call args = .ok run ∧ formatCode.call (args.withNull "consider_parens") = .ok run) ∧
    (∃ run, formatCode.call nothing = .ok run ∧ formatCode.call (nothing.withNull "code") = .ok run) ∧
    ∃ names, Text.ofString "width" ∈ names ∧ formatCode.Refuses (args.withNull "width")
      ("Unknown parameter(s) for '" ++ formatCode.name ++ "': " ++ Text.join ", " names) := by
  intro args nothing
  have distinct : formatCode.declared.Nodup := by decide
  have unreserved : reservedName ∉ formatCode.declared := by decide
  have free : reservedName ∉ args.names := by decide
  have freeToo : reservedName ∉ nothing.names := by decide
  have newFlag : ("consider_parens" : Text) ∉ args.names := by decide
  have newCode : ("code" : Text) ∉ nothing.names := by decide
  have newWidth : ("width" : Text) ∉ args.names := by decide
  have goesByName : formatCode.GoesByName := goesByName_of_builtin (by simp [builtin])
  obtain ⟨-, -, -, flag⟩ := (call_withNull distinct unreserved free newFlag).1 formatCode.parameters[1]
    (List.getElem_mem _) rfl
  obtain ⟨-, -, -, code⟩ := (call_withNull distinct unreserved freeToo newCode).1 formatCode.parameters[0]
    (List.getElem_mem _) rfl
  have refused := (call_withNull distinct unreserved free newWidth).2.1 (by decide) (by decide)
  exact ⟨distinct, unreserved, free, freeToo, newFlag, newCode, newWidth, flag.called goesByName,
    code.called goesByName, refused⟩

def tellOrder : Tool where
  name := "tell_order"
  parameters := [{ name := "a", kind := .int, required := false, default := .int 0 },
    { name := "b", kind := .int, required := false, default := .int 0 }]
  execute args := { outcome := .ok (.success [("order", .text (Text.join "," args.names))] none) }

theorem answers_tellOrder {args : Arguments} (accepts : tellOrder.Accepts args) :
    tellOrder.Answers args
      (.success [("order", .text (Text.join "," (tellOrder.withDefaults args).names))] none) := by
  have unreserved : reservedName ∉ tellOrder.declared := by decide
  rw [answers_iff, run_of_accepts accepts unreserved]
  exact ⟨accepts.free unreserved, rfl⟩

/-- Null moves a parameter in front of the ones whose defaults are filled in, and no call takes null for the tool. -/
theorem call_withNull_differs :
    let nothing : Arguments := .empty
    (tellOrder.declared.Nodup ∧ reservedName ∉ tellOrder.declared ∧ reservedName ∉ nothing.names ∧
      ("b" : Text) ∈ tellOrder.declared ∧ ("b" : Text) ∉ nothing.names ∧
      tellOrder.Answers nothing (.success [("order", .text "a,b")] none) ∧
      tellOrder.Answers (nothing.withNull "b") (.success [("order", .text "b,a")] none)) ∧
    packCode.declared.Nodup ∧ reservedName ∉ packCode.declared ∧ reservedName ∉ (codeArgument "t").names ∧
    ∀ report, ¬ packCode.Answers ((codeArgument "t").withNull reservedName) report := by
  intro nothing
  have omitted : tellOrder.Accepts nothing := fault?_eq_none_iff.mp (by decide +kernel)
  have null : tellOrder.Accepts (nothing.withNull "b") := fault?_eq_none_iff.mp (by decide +kernel)
  refine ⟨⟨by decide, by decide, by decide, by decide, by decide, ?_, ?_⟩, by decide, by decide, by decide, ?_⟩
  · exact answers_tellOrder omitted
  · exact answers_tellOrder null
  · exact fun report answers => (answers_iff.mp answers).1 (by decide)

end Tool
end Bytebeat
