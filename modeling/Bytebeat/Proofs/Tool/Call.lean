import Bytebeat.Proofs.Tool.Acceptance
import Bytebeat.Tool.Builtin

/-!
What a call of a tool comes to.

It executes the tool exactly if it accepts the arguments, on one value for each declared parameter. Otherwise the
report names everything undeclared, or else the fault of the first parameter that has one. Whether a tool is executed
does not depend on what it would do then, so both are stated for any body in place of its own.
-/

namespace Bytebeat

namespace Text

def Before : Text → Text → Prop := List.Lex fun c d => c.val < d.val

theorem before_of_le {s t : Text} (le : le s t = true) (ne : s ≠ t) : Before s t := by
  induction s generalizing t with
  | nil =>
      cases t with
      | nil => exact absurd rfl ne
      | cons d t => exact .nil
  | cons c s ih =>
      cases t with
      | nil => cases le
      | cons d t =>
          simp only [Text.le, Bool.or_eq_true, Bool.and_eq_true, decide_eq_true_eq] at le
          rcases le with first | ⟨same, rest⟩
          · exact .rel first
          · cases CodePoint.ext same
            exact .cons (ih rest fun equal => ne (congrArg _ equal))

theorem le_total (s t : Text) : le s t = true ∨ le t s = true := by
  induction s generalizing t with
  | nil => simp [le]
  | cons c s ih =>
      cases t with
      | nil => simp [le]
      | cons d t =>
          simp only [le, Bool.or_eq_true, Bool.and_eq_true, decide_eq_true_eq]
          rcases Nat.lt_trichotomy c.val d.val with less | same | more
          · exact .inl (.inl less)
          · exact (ih t).imp (fun rest => .inr ⟨same, rest⟩) fun rest => .inr ⟨same.symm, rest⟩
          · exact .inr (.inl more)

theorem le_trans {s t u : Text} (first : le s t = true) (second : le t u = true) : le s u = true := by
  induction s generalizing t u with
  | nil => rfl
  | cons c s ih =>
      cases t with
      | nil => cases first
      | cons d t =>
          cases u with
          | nil => cases second
          | cons e u =>
              simp only [le, Bool.or_eq_true, Bool.and_eq_true, decide_eq_true_eq] at first second ⊢
              rcases first with less | ⟨same, rest⟩
              · exact .inl (Nat.lt_of_lt_of_le less (second.elim Nat.le_of_lt fun later => Nat.le_of_eq later.1))
              · rw [same]
                exact second.imp_right fun later => ⟨later.1, ih rest later.2⟩

end Text

namespace Parameter

inductive Complaint (p : Parameter) (args : Arguments) : Text → Prop where
  | missing (required : p.required = true) (omitted : args.given? p.name = none) :
      Complaint p args ("Required parameter '" ++ p.name ++ "' is missing")
  | wrongKind {v : Value} (given : args.given? p.name = some v) (other : v.kind ≠ p.kind) :
      Complaint p args ("Parameter '" ++ p.name ++ "' must be " ++ p.kind.name ++ ", got " ++ v.kind.name)

theorem complaint_of_fault? {p : Parameter} {args : Arguments} {e : InputError} (fault : p.fault? args = some e) :
    p.Complaint args e.message := by
  unfold fault? at fault
  split at fault
  · rename_i omitted
    split at fault
    · rename_i required
      cases fault
      exact .missing required omitted
    · cases fault
  · rename_i v given
    split at fault
    · cases fault
    · rename_i other
      cases fault
      exact .wrongKind given other

theorem not_complaint_of_fault? {p : Parameter} {args : Arguments} (fine : p.fault? args = none) (message : Text) :
    ¬ p.Complaint args message := by
  obtain ⟨present, kinds⟩ := fault?_eq_none_iff.mp fine
  intro complaint
  cases complaint with
  | missing required omitted => exact present required omitted
  | wrongKind given other => exact other (kinds _ given)

end Parameter

namespace Tool

abbrev declared (tool : Tool) : List Text := tool.parameters.map Parameter.name

inductive Complaint (tool : Tool) (args : Arguments) : Text → Prop where
  | unknown {names : List Text} (some : names ≠ [])
      (undeclared : ∀ name, name ∈ names ↔ name ∈ args.names ∧ name ∉ tool.declared)
      (ascending : names.Pairwise Text.Before) :
      Complaint tool args ("Unknown parameter(s) for '" ++ tool.name ++ "': " ++ Text.join ", " names)
  | parameter {before after : List Parameter} {p : Parameter} {message : Text}
      (known : ∀ name ∈ args.names, name ∈ tool.declared) (order : tool.parameters = before ++ p :: after)
      (fine : ∀ q ∈ before, ∀ other, ¬ q.Complaint args other) (complaint : p.Complaint args message) :
      Complaint tool args message

/-- A tool gets one value for each declared parameter: the one given, or the default of an optional parameter. -/
structure Receives (tool : Tool) (args received : Arguments) : Prop where
  names : received.names.Perm tool.declared
  given : ∀ p ∈ tool.parameters, ∀ v, args.given? p.name = some v → received.get? p.name = some v
  default : ∀ p ∈ tool.parameters, p.required = false → args.given? p.name = none →
    received.get? p.name = some p.default

/-- Whatever the tool does, a call comes to what it does with the arguments that it receives. -/
def Executes (tool : Tool) (args received : Arguments) : Prop :=
  ∀ body : Arguments → Execution, { tool with execute := body }.call args = .ok (tool.conclude (body received))

/-- Whatever the tool would do, a call comes to one and the same failure. -/
def Refuses (tool : Tool) (args : Arguments) (message : Text) : Prop :=
  ∃ run : Run, run.report.succeeded = false ∧ run.report.error? = some message ∧
    ∀ body : Arguments → Execution, { tool with execute := body }.call args = .ok run

/-! ## Arguments that are not accepted -/

variable {tool : Tool} {args : Arguments}

theorem mem_unknownNames_iff {name : Text} :
    name ∈ tool.unknownNames args ↔ name ∈ args.names ∧ name ∉ tool.declared := by
  rw [unknownNames, (List.mergeSort_perm _ _).mem_iff, List.mem_filter]
  simp

theorem unknownNames_ascending (tool : Tool) (args : Arguments) : (tool.unknownNames args).Pairwise Text.Before := by
  have distinct : (tool.unknownNames args).Nodup :=
    (List.mergeSort_perm _ _).nodup_iff.mpr (args.distinct.filter _)
  have sorted : (tool.unknownNames args).Pairwise fun a b => Text.le a b = true := by
    apply List.pairwise_mergeSort
    · exact fun _ _ _ => Text.le_trans
    · exact fun a b => (Bool.or_eq_true _ _).mpr (Text.le_total a b)
  exact sorted.imp₂ (fun _ _ => Text.before_of_le) distinct

theorem complaint_of_fault? {e : InputError} (fault : tool.fault? args = some e) : tool.Complaint args e.message := by
  unfold fault? at fault
  split at fault
  · rename_i none
    obtain ⟨before, p, after, order, ofParameter, fine⟩ := List.findSome?_eq_some_iff.mp fault
    exact .parameter (unknownNames_eq_nil_iff.mp none) order
      (fun q mem => Parameter.not_complaint_of_fault? (fine q mem)) (Parameter.complaint_of_fault? ofParameter)
  · rename_i some
    cases fault
    exact .unknown some (fun _ => mem_unknownNames_iff) (unknownNames_ascending tool args)

/-! ## Arguments that are accepted -/

theorem get?_withDefaults_of_given (distinct : tool.declared.Nodup) {p : Parameter} (mem : p ∈ tool.parameters)
    {v : Value} (given : args.given? p.name = some v) : (tool.withDefaults args).get? p.name = some v := by
  cases required : p.required with
  | true =>
      rw [get?_withDefaults_required distinct mem required]
      exact (Arguments.given?_eq_some_iff.mp given).1
  | false => rw [get?_withDefaults_optional distinct mem required, given, Option.getD_some]

theorem names_withDefaults (distinct : tool.declared.Nodup) (accepts : tool.Accepts args) :
    (tool.withDefaults args).names.Perm tool.declared := by
  apply (List.perm_ext_iff_of_nodup (tool.withDefaults args).distinct distinct).mpr
  intro name
  constructor
  · intro mem
    apply Classical.byContradiction
    intro other
    have absent : args.get? name = none := Table.get?_eq_none_iff.mpr fun held => other (accepts.known name held)
    rw [← get?_foldl_fill_of_not_mem other args] at absent
    exact Table.get?_eq_none_iff.mp absent mem
  · intro mem
    obtain ⟨p, isParameter, rfl⟩ := List.mem_map.mp mem
    have bound : (tool.withDefaults args).get? p.name ≠ none := by
      cases given : args.given? p.name with
      | some v => simp [get?_withDefaults_of_given distinct isParameter given]
      | none =>
          have optional : p.required = false :=
            Bool.eq_false_iff.mpr fun required => accepts.present p isParameter required given
          simp [get?_withDefaults_optional distinct isParameter optional]
    exact Classical.not_not.mp fun out => bound (Table.get?_eq_none_iff.mpr out)

theorem receives_withDefaults (distinct : tool.declared.Nodup) (accepts : tool.Accepts args) :
    tool.Receives args (tool.withDefaults args) := by
  refine ⟨names_withDefaults distinct accepts, fun p mem v => get?_withDefaults_of_given distinct mem, ?_⟩
  intro p mem optional omitted
  rw [get?_withDefaults_optional distinct mem optional, omitted, Option.getD_none]

/-! ## Calls -/

theorem call_of_free (free : reservedName ∉ args.names) : tool.call args = .ok (tool.run args) := by
  rw [call, if_neg]
  exact mt Table.contains_iff.mp free

theorem report_conclude_of_ok {execution : Execution} {report : Report} (ended : execution.outcome = .ok report) :
    (tool.conclude execution).report = report := by
  rw [conclude, ended]
  rfl

theorem report_conclude_of_error {execution : Execution} {message : Text} (broke : execution.outcome = .error message)
    (printable : execution.printable = true) :
    (tool.conclude execution).report = .failure (.brokeOff message) none := by
  rw [conclude, broke, printable]
  rfl

@[simp] theorem report_reject (tool : Tool) (e : InputError) : (tool.reject e).report = .failure (.badInput e) none := rfl

theorem run_of_fault? {e : InputError} (fault : tool.fault? args = some e) : tool.run args = tool.reject e := by
  rw [run, fault]

theorem run_eq_conclude (accepts : tool.Accepts args) :
    tool.run args = tool.conclude (tool.perform (tool.withDefaults args)) := by
  rw [run, fault?_eq_none_iff.mpr accepts]

theorem Accepts.free (accepts : tool.Accepts args) (unreserved : reservedName ∉ tool.declared) :
    reservedName ∉ args.names :=
  fun held => unreserved (accepts.known _ held)

theorem perform_withDefaults (unreserved : reservedName ∉ tool.declared) (free : reservedName ∉ args.names) :
    tool.perform (tool.withDefaults args) = tool.execute (tool.withDefaults args) := by
  have absent : (tool.withDefaults args).get? reservedName = none := by
    rw [withDefaults, get?_foldl_fill_of_not_mem unreserved, Table.get?_eq_none_iff.mpr free]
  rw [perform, if_neg (mt Table.contains_iff.mp (Table.get?_eq_none_iff.mp absent))]

theorem run_of_accepts (accepts : tool.Accepts args) (unreserved : reservedName ∉ tool.declared) :
    tool.run args = tool.conclude (tool.execute (tool.withDefaults args)) := by
  rw [run_eq_conclude accepts, perform_withDefaults unreserved (accepts.free unreserved)]

theorem executes_of_accepts (unreserved : reservedName ∉ tool.declared) (accepts : tool.Accepts args) :
    tool.Executes args (tool.withDefaults args) := by
  intro body
  have again : Accepts { tool with execute := body } args := ⟨accepts.known, accepts.present, accepts.kinds⟩
  rw [call_of_free (accepts.free unreserved), run_of_accepts again unreserved]
  rfl

theorem refuses_of_fault? (free : reservedName ∉ args.names) {e : InputError} (fault : tool.fault? args = some e) :
    tool.Refuses args e.message := by
  refine ⟨tool.reject e, rfl, rfl, ?_⟩
  intro body
  have again : fault? { tool with execute := body } args = some e := fault
  rw [call_of_free free, run_of_fault? again]
  rfl

theorem Refuses.not_executes {message : Text} (refuses : tool.Refuses args message) (received : Arguments) :
    ¬ tool.Executes args received := by
  obtain ⟨run, failed, -, called⟩ := refuses
  intro executes
  -- A body that always succeeds tells the two apart.
  let succeed : Arguments → Execution := fun _ => { outcome := .ok (.success [] none) }
  have same := (called succeed).symm.trans (executes succeed)
  rw [Except.ok.inj same] at failed
  cases failed

theorem Executes.unique {received again : Arguments} (executes : tool.Executes args received)
    (other : tool.Executes args again) : received = again := by
  -- A body that hands back what it gets tells two bindings apart.
  let echo : Arguments → Execution := fun held => { outcome := .ok (.success held.entries none) }
  have same := Except.ok.inj ((executes echo).symm.trans (other echo))
  have entries : received.entries = again.entries :=
    Option.some.inj (congrArg (fun run : Run => run.report.data?) same)
  cases received
  cases again
  cases entries
  rfl

theorem executes_iff_accepts (distinct : tool.declared.Nodup) (unreserved : reservedName ∉ tool.declared)
    (free : reservedName ∉ args.names) :
    ((∃ received, tool.Executes args received) ↔ tool.Accepts args) ∧
    (∀ received, tool.Executes args received → tool.Receives args received) ∧
    (¬ tool.Accepts args → ∃ message, tool.Refuses args message ∧ tool.Complaint args message) := by
  cases fault : tool.fault? args with
  | none =>
      have accepts := fault?_eq_none_iff.mp fault
      have executes := executes_of_accepts unreserved accepts
      refine ⟨iff_of_true ⟨_, executes⟩ accepts, ?_, fun rejects => absurd accepts rejects⟩
      intro received other
      rw [other.unique executes]
      exact receives_withDefaults distinct accepts
  | some e =>
      have refuses := refuses_of_fault? free fault
      have rejects : ¬ tool.Accepts args := by
        rw [← fault?_eq_none_iff, fault]
        exact Option.some_ne_none e
      refine ⟨iff_of_false ?_ rejects, ?_, fun _ => ⟨_, refuses, complaint_of_fault? fault⟩⟩
      · rintro ⟨received, executes⟩
        exact refuses.not_executes received executes
      · exact fun received executes => absurd executes (refuses.not_executes received)

theorem executes_iff_accepts_formatCode :
    let given : Arguments := .ofList [("max_paren_depth", .null), ("code", .text "a,b")]
    let flawed : Arguments := .ofList [("max_paren_depth", .bool true), ("code", .null)]
    formatCode.declared.Nodup ∧ reservedName ∉ formatCode.declared ∧ reservedName ∉ given.names ∧
    reservedName ∉ flawed.names ∧
    (∃ received, formatCode.Executes given received ∧ formatCode.Receives given received) ∧
    ∃ message, formatCode.Refuses flawed message ∧ formatCode.Complaint flawed message := by
  intro given flawed
  have distinct : formatCode.declared.Nodup := by decide
  have unreserved : reservedName ∉ formatCode.declared := by decide
  have free : reservedName ∉ given.names := by decide
  have freeToo : reservedName ∉ flawed.names := by decide
  have accepts : formatCode.Accepts given := fault?_eq_none_iff.mp (by decide +kernel)
  have rejects : ¬ formatCode.Accepts flawed := fun accepts => accepts.present _ List.mem_cons_self rfl rfl
  obtain ⟨executed, receives, -⟩ := executes_iff_accepts distinct unreserved free
  obtain ⟨received, executes⟩ := executed.mpr accepts
  exact ⟨distinct, unreserved, free, freeToo, ⟨received, executes, receives received executes⟩,
    (executes_iff_accepts distinct unreserved freeToo).2.2 rejects⟩

end Tool
end Bytebeat
