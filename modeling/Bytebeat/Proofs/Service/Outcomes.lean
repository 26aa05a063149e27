import Bytebeat.Proofs.Service.Surfaces
import Bytebeat.Proofs.Tool.Outcomes

namespace Bytebeat.Service
open Tool (HandsIn LayoutFails Measures)

structure Serves {α : Type} (settings : Settings) (code : Text) (result : Except Refusal α) : Prop where
  answers : code.length ≤ settings.maxCodeLength → ∃ reply, result = .ok reply
  turnsAway : settings.maxCodeLength < code.length → TurnsAway result

theorem serves_unpackCode (settings : Settings) (code : Text) :
    Serves settings code (unpackCode settings { code }) where
  answers short := by
    obtain ⟨reply, answered, -⟩ := unpackCode_agrees short (Tool.handsIn_codeArgument List.mem_cons_self code)
    exact ⟨reply, answered⟩
  turnsAway long := turnsAway_of_lt long _

theorem serves_measureCode (settings : Settings) {code : Text} (labelled : ∃ t, Size.label code.utf8Length = .ok t)
    (compact : Bool) :
    Serves settings code (measureCode settings { code, compact }) where
  answers short := by
    obtain ⟨plain, labels⟩ := labelled
    obtain ⟨label, labels⟩ := Size.exists_label_of_ok labels
    obtain ⟨_, -, answered⟩ | ⟨tooLarge, -⟩ := measureCode_cases short compact
    · exact ⟨_, answered⟩
    · cases labels.symm.trans tooLarge
  turnsAway long := turnsAway_of_lt long _

variable {args : Arguments}

/-- The tools for code fail for reasons of their own only, and two of them succeed on all that they accept. -/
theorem no_tool_breaks_off (free : reservedName ∉ args.names)
    (labelled : ∀ code, args.given? "code" = some (.text code) → Labelled code) :
    (∀ tool ∈ Tool.builtin, tool.Answers args (tool.run args).report ∧ (tool.run args).report.Complete) ∧
    (Tool.unpackCode.Accepts args → ∃ code, HandsIn .unpackCode args code ∧
      (Tool.unpackCode.run args).report = Tool.unpackReport code) ∧
    (Tool.codeSize.Accepts args → ∃ compact code label, Measures args compact code ∧
      Size.label code.utf8Length compact = .ok label ∧ (Tool.codeSize.run args).report =
        .success [("bytes", .int code.utf8Length), ("label", .text label)] (some [("length", .int code.length)])) ∧
    (Tool.packCode.Accepts args → (Tool.packCode.run args).report.succeeded = true ∨
      (Tool.packCode.run args).report.error? = some "Code is already packed." ∨
      (Tool.packCode.run args).report.error? = some "Packing reverted: the packed code does not round-trip.") ∧
    (Tool.formatCode.Accepts args → (Tool.formatCode.run args).report.succeeded = true ∨
      ∃ message, (Tool.formatCode.run args).report.error? = some message ∧ LayoutFails args message) ∧
    ∀ settings code, Serves settings code (unpackCode settings { code }) ∧
      ((∃ t, Size.label code.utf8Length = .ok t) →
        ∀ compact, Serves settings code (measureCode settings { code, compact })) := by
  refine ⟨?_, Tool.unpackCode_ends, ?_, ?_, Tool.layoutFails_of_ends, ?_⟩
  · intro tool builtin
    exact ⟨Tool.answers_iff.mpr ⟨free, Tool.report?_run_of_builtin builtin args⟩, Tool.complete_run builtin labelled⟩
  · exact fun accepts => Tool.codeSize_ends accepts fun code given => (labelled code given).source
  · intro accepts
    obtain ⟨data, metadata, report⟩ | report | report := Tool.packCode_ends accepts labelled
    · rw [report]
      exact .inl rfl
    · rw [report]
      exact .inr (.inl rfl)
    · rw [report]
      exact .inr (.inr rfl)
  · exact fun settings code => ⟨serves_unpackCode settings code, serves_measureCode settings⟩

theorem no_tool_breaks_off_negative :
    let args : Arguments := .ofList [("code", .text "f(a,b)"), ("max_paren_depth", .int (-1))]
    reservedName ∉ args.names ∧ (∀ code, args.given? "code" = some (.text code) → Labelled code) ∧
    Tool.formatCode.Accepts args ∧ LayoutFails args "max_paren_depth must be non-negative, got -1" := by
  intro args
  have free : reservedName ∉ args.names := by decide
  have labelled : ∀ code, args.given? "code" = some (.text code) → Labelled code := by
    rintro code ⟨⟩
    exact ⟨⟨_, Size.label_of_lt (by decide) _⟩, ⟨_, Size.label_of_lt (by decide) _⟩⟩
  have accepts : Tool.formatCode.Accepts args := Tool.fault?_eq_none_iff.mp (by decide +kernel)
  have told : (Tool.formatCode.run args).report.error? = some "max_paren_depth must be non-negative, got -1" := by
    decide +kernel
  obtain ⟨-, -, -, -, ends, -⟩ := no_tool_breaks_off free labelled
  obtain succeeded | ⟨message, failed, fails⟩ := ends accepts
  · exact absurd succeeded (by decide +kernel)
  · cases told.symm.trans failed
    exact ⟨free, labelled, accepts, fails⟩

/-- A depth that is too long to be written is told neither as a depth nor as a bracket. -/
theorem no_tool_breaks_off_long :
    let args : Arguments := .ofList [("code", .text "a,b"), ("max_paren_depth", .int (-(10 ^ Text.digitLimit : Nat)))]
    reservedName ∉ args.names ∧ Labelled "a,b" ∧ Tool.formatCode.Accepts args ∧
    ∃ message, (Tool.formatCode.run args).report.error? = some message ∧
      (∀ n, message ≠ "max_paren_depth must be non-negative, got " ++ Text.ofInt n) ∧
      ∀ reason, message ≠ "Format failed: " ++ reason ++ "!" := by
  intro args
  have labelled : Labelled "a,b" := ⟨⟨_, Size.label_of_lt (by decide) _⟩, ⟨_, Size.label_of_lt (by decide) _⟩⟩
  have accepts : Tool.formatCode.Accepts args := Tool.fault?_eq_none_iff.mp (by decide +kernel)
  have report := Tool.formatCode_of_negative accepts rfl
    (Int.neg_neg_of_pos (Int.natCast_pos.mpr (Nat.pow_pos (by decide))))
  have first : Text.tooManyDigits.head? = some 'E' := by decide +kernel
  refine ⟨by decide, labelled, accepts, Text.tooManyDigits, ?_, fun n same => ?_, fun reason same => ?_⟩
  · rw [report, Report.error?_failure, Failure.message, Layout.ConfigError.message, Text.endingWith_eq, Int.natAbs_neg,
      Int.natAbs_natCast, if_neg (Nat.lt_irrefl _)]
  · rw [same] at first
    cases first
  · rw [same] at first
    cases first

end Bytebeat.Service
