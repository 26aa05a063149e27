import Bytebeat.Proofs.Size.Label
import Bytebeat.Proofs.Tool.Answers
import Bytebeat.Proofs.Tool.Format

namespace Bytebeat.Tool

/-! ## What the tools go on with -/

structure Measures (args : Arguments) (compact : Bool) (code : Text) : Prop extends HandsIn codeSize args code where
  compact : (args.given? "compact").getD (.bool false) = .bool compact

variable {args : Arguments} {code : Text} {compact : Bool}

theorem Measures.accepts (measures : Measures args compact code) : codeSize.Accepts args := by
  apply measures.toHandsIn.accepts (by decide)
  intro p mem other
  simp only [codeSize, List.mem_cons, List.not_mem_nil, or_false] at mem
  rcases mem with rfl | rfl
  · exact absurd rfl other
  · refine ⟨rfl, fun v given => ?_⟩
    have same := measures.compact
    rw [given, Option.getD_some] at same
    rw [same]
    rfl

theorem Measures.run_eq (measures : Measures args compact code) :
    codeSize.run args = codeSize.conclude (measure code compact) := by
  have distinct : (codeSize.parameters.map Parameter.name).Nodup := by decide
  have flag : (codeSize.withDefaults args).get? "compact" = some (.bool compact) := by
    rw [← measures.compact]
    exact get?_withDefaults_optional distinct (p := codeSize.parameters[1]) (List.getElem_mem _) rfl args
  rw [run_of_accepts measures.accepts (by decide)]
  refine congrArg codeSize.conclude ?_
  show withText (codeSize.withDefaults args) "code" _ = _
  rw [withText_withDefaults codeSize distinct List.mem_cons_self measures.code, withFlag, flag]

/-! ## What the tools come to -/

theorem measure_of_label {label : Text} (labelled : Size.label code.utf8Length compact = .ok label) :
    (measure code compact).outcome = .ok (.success [("bytes", .int code.utf8Length), ("label", .text label)]
      (some [("length", .int code.length)])) := by
  unfold measure withLabel
  rw [labelled]

theorem measure_of_tooLarge (tooLarge : Size.label code.utf8Length compact = .error .tooLarge) :
    (measure code compact).outcome = .error Size.LabelError.tooLarge.message := by
  unfold measure withLabel
  rw [tooLarge]

theorem codeSize_report (measures : Measures args compact code) :
    (∃ label, Size.label code.utf8Length compact = .ok label ∧ (codeSize.run args).report = .success
      [("bytes", .int code.utf8Length), ("label", .text label)] (some [("length", .int code.length)])) ∨
    (Size.label code.utf8Length compact = .error .tooLarge ∧
      ∃ cause, (codeSize.run args).report = .failure cause none) := by
  rw [measures.run_eq]
  obtain ⟨label, labelled⟩ | tooLarge := Size.label_ok_or_tooLarge code.utf8Length compact
  · exact .inl ⟨label, labelled, report_conclude_of_ok (measure_of_label labelled)⟩
  · exact .inr ⟨tooLarge, _, report_conclude_of_error (measure_of_tooLarge tooLarge)
      (sound_measure code compact).printable⟩

theorem formatCode_report {config : Layout.Config} (requests : Requests args config code) :
    (∃ out, Layout.format config code = .ok out ∧ ∃ metadata, (formatCode.run args).report =
      .success [("code", .text out), ("changed", .bool (decide (out ≠ code)))] metadata) ∨
    ∃ i, Layout.format config code = .error i ∧ (formatCode.run args).report =
      .failure (.unbalanced i) (some [("reason", .text i.reason)]) := by
  rw [requests.run_eq]
  cases formatted : Layout.format config code with
  | ok out => exact .inl ⟨out, rfl, _, report_conclude_of_ok (layOut_outcome formatted)⟩
  | error i =>
      have refused : (layOut config code).outcome =
          .ok (.failure (.unbalanced i) (some [("reason", .text i.reason)])) := by
        rw [layOut, formatted]
      exact .inr ⟨i, rfl, report_conclude_of_ok refused⟩

end Bytebeat.Tool
