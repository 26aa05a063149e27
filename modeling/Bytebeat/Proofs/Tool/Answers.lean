import Bytebeat.Proofs.Tool.Call

namespace Bytebeat

namespace Report

structure Consistent (r : Report) : Prop where
  failed : r.succeeded = false → r.data? = none ∧ ∃ message, r.error? = some message
  succeeded : r.succeeded = true → r.error? = none

theorem consistent_success (data : Fields) (metadata : Option Fields) : (success data metadata).Consistent :=
  ⟨nofun, fun _ => rfl⟩

theorem consistent_failure (cause : Failure) (metadata : Option Fields) : (failure cause metadata).Consistent :=
  ⟨fun _ => ⟨rfl, _, rfl⟩, nofun⟩

end Report

namespace Execution

def BreaksOff (e : Execution) (text? : Option Text) : Prop :=
  ∃ message, e.outcome = .error message ∧ text? = if e.printable then some message else none

/-- A consistent report comes of it, or an exception that can be printed. -/
structure Sound (e : Execution) : Prop where
  consistent : ∀ report, e.outcome = .ok report → report.Consistent
  printable : e.printable = true

theorem sound_of_error (message : Text) : Sound { outcome := .error message } := ⟨nofun, rfl⟩

theorem sound_of_ok {report : Report} (consistent : report.Consistent) (notices : List Notice) :
    Sound { outcome := .ok report, notices } :=
  ⟨fun _ same => Except.ok.inj same ▸ consistent, rfl⟩

end Execution

namespace Tool
open Execution Report

/-! ## The bodies of the tools for code -/

section
variable {args : Arguments} {name : Text}

theorem sound_withText {next : Text → Execution} (goesOn : ∀ t, (next t).Sound) : (withText args name next).Sound := by
  unfold withText
  split
  · exact goesOn _
  · exact sound_of_error _

theorem sound_withFlag {next : Bool → Execution} (goesOn : ∀ b, (next b).Sound) : (withFlag args name next).Sound := by
  unfold withFlag
  split
  · exact goesOn _
  · exact sound_of_error _

theorem sound_withValue {next : Value → Execution} (goesOn : ∀ v, (next v).Sound) :
    (withValue args name next).Sound := by
  unfold withValue
  split
  · exact goesOn _
  · exact sound_of_error _

theorem sound_withLabel {size : Nat} {compact : Bool} {next : Text → Execution} (goesOn : ∀ t, (next t).Sound) :
    (withLabel size compact next).Sound := by
  unfold withLabel
  split
  · exact goesOn _
  · exact sound_of_error _

end

theorem sound_measure (code : Text) (compact : Bool) : (measure code compact).Sound :=
  sound_withLabel fun _ => sound_of_ok (consistent_success _ _) _

theorem sound_layOut (config : Layout.Config) (code : Text) : (layOut config code).Sound := by
  unfold layOut
  split
  · exact sound_of_ok (consistent_failure _ _) _
  · exact sound_of_ok (consistent_success _ _) _

theorem sound_pack (code : Text) : (pack code).Sound := by
  unfold pack
  dsimp only
  split
  · exact sound_of_ok (consistent_failure _ _) _
  · split
    · exact sound_of_ok (consistent_failure _ _) _
    · exact sound_withLabel fun _ => sound_withLabel fun _ => sound_of_ok (consistent_success _ _) _

theorem sound_unpack (code : Text) : (unpack code).Sound := sound_of_ok (consistent_success _ _) _

theorem sound_execute {tool : Tool} (builtin : tool ∈ builtin) (received : Arguments) :
    (tool.execute received).Sound := by
  simp only [Tool.builtin, List.mem_cons, List.not_mem_nil, or_false] at builtin
  rcases builtin with rfl | rfl | rfl | rfl
  · exact sound_withText fun code => sound_withFlag fun compact => sound_measure code compact
  · refine sound_withText fun code => sound_withValue fun flag => sound_withValue fun depth => ?_
    split
    · exact sound_of_ok (consistent_failure _ _) _
    · exact sound_layOut _ code
  · exact sound_withText sound_pack
  · exact sound_withText sound_unpack

/-! ## Answers -/

def Answers (tool : Tool) (args : Arguments) (report : Report) : Prop :=
  ∃ run, tool.call args = .ok run ∧ run.report? = some report

variable {tool : Tool} {args : Arguments}

theorem call_of_reserved (reserved : reservedName ∈ args.names) : tool.call args = .error .reserved := by
  rw [call, if_pos (Table.contains_iff.mpr reserved)]

theorem answers_iff {report : Report} : tool.Answers args report ↔
    reservedName ∉ args.names ∧ (tool.run args).report? = some report := by
  constructor
  · rintro ⟨run, called, told⟩
    have free : reservedName ∉ args.names := by
      intro reserved
      cases (call_of_reserved reserved).symm.trans called
    rw [call_of_free free] at called
    cases called
    exact ⟨free, told⟩
  · rintro ⟨free, told⟩
    exact ⟨_, call_of_free free, told⟩

theorem report?_conclude_eq_none_iff {execution : Execution} :
    (tool.conclude execution).report? = none ↔ execution.BreaksOff none := by
  unfold conclude BreaksOff
  cases execution.outcome with
  | ok report => simp
  | error message => cases execution.printable <;> simp

theorem report?_conclude_of_breaksOff {execution : Execution} {message : Text}
    (broke : execution.BreaksOff (some message)) :
    (tool.conclude execution).report? = some (.failure (.brokeOff message) none) := by
  obtain ⟨text, ended, printed⟩ := broke
  cases printable : execution.printable with
  | true =>
      rw [printable] at printed
      cases printed
      rw [conclude, ended, printable]
      rfl
  | false =>
      rw [printable] at printed
      cases printed

theorem report?_run_eq_none_iff : (tool.run args).report? = none ↔
    tool.Accepts args ∧ (tool.perform (tool.withDefaults args)).BreaksOff none := by
  cases fault : tool.fault? args with
  | some e =>
      rw [run_of_fault? fault]
      refine iff_of_false (Option.some_ne_none _) fun broke => ?_
      rw [fault?_eq_none_iff.mpr broke.1] at fault
      cases fault
  | none =>
      have accepts := fault?_eq_none_iff.mp fault
      rw [run_eq_conclude accepts, report?_conclude_eq_none_iff]
      exact (and_iff_right accepts).symm

theorem unreserved_of_builtin (builtin : tool ∈ builtin) : reservedName ∉ tool.declared := by
  simp only [Tool.builtin, List.mem_cons, List.not_mem_nil, or_false] at builtin
  rcases builtin with rfl | rfl | rfl | rfl <;> decide

theorem exists_report_run (builtin : tool ∈ builtin) (args : Arguments) :
    ∃ report, (tool.run args).report? = some report ∧ report.Consistent := by
  cases fault : tool.fault? args with
  | some e =>
      rw [run_of_fault? fault]
      exact ⟨_, rfl, consistent_failure _ _⟩
  | none =>
      have sound := sound_execute builtin (tool.withDefaults args)
      rw [run_of_accepts (fault?_eq_none_iff.mp fault) (unreserved_of_builtin builtin)]
      cases ended : (tool.execute (tool.withDefaults args)).outcome with
      | ok report => exact ⟨report, by rw [conclude, ended], sound.consistent report ended⟩
      | error message =>
          have broke : (tool.execute (tool.withDefaults args)).BreaksOff (some message) :=
            ⟨message, ended, by rw [sound.printable]; rfl⟩
          exact ⟨_, report?_conclude_of_breaksOff broke, consistent_failure _ _⟩

theorem report?_run_of_builtin (builtin : tool ∈ builtin) (args : Arguments) :
    (tool.run args).report? = some (tool.run args).report := by
  obtain ⟨report, told, -⟩ := exists_report_run builtin args
  rw [Run.report, told]
  rfl

/-- A call is answered unless an argument is named as the tool itself or what is to be reported cannot be printed. -/
theorem call_answers_iff (tool : Tool) (args : Arguments) :
    ((∃ report, tool.Answers args report) ↔ reservedName ∉ args.names ∧
      ¬ (tool.Accepts args ∧ (tool.perform (tool.withDefaults args)).BreaksOff none)) ∧
    (∀ message, reservedName ∉ args.names → tool.Accepts args →
      (tool.perform (tool.withDefaults args)).BreaksOff (some message) →
        tool.Answers args (.failure (.brokeOff message) none)) ∧
    (tool ∈ builtin → reservedName ∉ args.names → ∃ report, tool.Answers args report ∧ report.Consistent) := by
  refine ⟨?_, ?_, ?_⟩
  · rw [← report?_run_eq_none_iff, ← ne_eq, Option.ne_none_iff_exists']
    simp only [answers_iff, exists_and_left]
  · intro message free accepts broke
    rw [answers_iff, run_eq_conclude accepts]
    exact ⟨free, report?_conclude_of_breaksOff broke⟩
  · intro builtin free
    obtain ⟨report, told, consistent⟩ := exists_report_run builtin args
    exact ⟨report, answers_iff.mpr ⟨free, told⟩, consistent⟩

def mute : Tool where
  name := "mute"
  execute _ := { outcome := .error [], printable := false }

theorem call_unanswered :
    (packCode ∈ builtin ∧
      ¬ ∃ report, packCode.Answers (.ofList [("code", .text "t"), ("self", .int 1)]) report) ∧
    reservedName ∉ Table.names (.empty : Arguments) ∧ ¬ ∃ report, mute.Answers .empty report := by
  refine ⟨⟨by simp [builtin], ?_⟩, by decide, ?_⟩
  · rintro ⟨report, answers⟩
    exact (answers_iff.mp answers).1 (by decide)
  · rintro ⟨report, answers⟩
    have accepts : mute.Accepts .empty := ⟨nofun, nofun, nofun⟩
    have silent : (mute.run .empty).report? = none := report?_run_eq_none_iff.mpr ⟨accepts, [], rfl, rfl⟩
    cases silent.symm.trans (answers_iff.mp answers).2

end Tool
end Bytebeat
