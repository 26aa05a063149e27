import Bytebeat.Proofs.Layout.Packed
import Bytebeat.Proofs.Packing.Repack
import Bytebeat.Proofs.Tool.Unpack

namespace Bytebeat.Tool
open Packing Layout

variable {code : Text}

theorem format_encode (reversible : Reversible code) (config : Config) :
    format config (encode code) = .ok ((wrap code).spell (if config.allows 3 then ",\n" else ",")) := by
  apply format_render
  · exact fun mem => absurd (reversible.le_val_of_mem mem) (by decide)
  · exact fun last => absurd (reversible.le_val_of_mem (List.mem_of_getLast? last)) (by decide)

theorem allows_three_eq_false_iff {config : Config} :
    config.allows 3 = false ↔ config.considerParens = true ∧ config.maxParenDepth < 3 := by
  simp only [Config.allows, Bool.or_eq_false_iff, Bool.not_eq_false', decide_eq_false_iff_not]
  exact and_congr_right fun _ => by omega

theorem spell_broken (payload : Text) : Wrapper.spell { payload } ",\n" =
    "eval(unescape(escape\x60" ++ payload ++ "\x60.replace(/u(..)/g,\n\"$1%\")))" := by
  rw [List.append_assoc]
  rfl

/-- Packed code keeps its form, or gets one line break after the comma of its replace call and loses it. -/
theorem format_packed {run : Run} (called : packCode.call (codeArgument code) = .ok run)
    (succeeded : run.report.succeeded = true) (config : Config) :
    ∃ packed payload out, run.report.field? "code" = some (.text packed) ∧
      packed = "eval(unescape(escape\x60" ++ payload ++ "\x60.replace(/u(..)/g,\"$1%\")))" ∧
      format config packed = .ok out ∧
      (out = packed ↔ config.considerParens = true ∧ config.maxParenDepth < 3) ∧
      (out ≠ packed → out = "eval(unescape(escape\x60" ++ payload ++ "\x60.replace(/u(..)/g,\n\"$1%\")))" ∧
        isPacked out = false ∧ ∃ again, unpackCode.call (codeArgument out) = .ok again ∧
          again.report.field? "changed" = some (.bool false)) := by
  obtain ⟨-, reversible, field⟩ := packCode_succeeded called succeeded
  have laidOut := format_encode reversible config
  rw [← allows_three_eq_false_iff]
  cases allowed : config.allows 3 with
  | false =>
      have same : format config (encode code) = .ok (encode code) := by
        rw [laidOut, allowed, encode, Wrapper.render_eq_spell]
        rfl
      exact ⟨encode code, _, encode code, field, render_plain _, same, by simp, absurd rfl⟩
  | true =>
      let out := (wrap code).spell ",\n"
      have broken : format config (encode code) = .ok out := by
        rw [laidOut, allowed]
        rfl
      have differs : out ≠ encode code := (wrap code).spell_ne_render _ (c := '\n') rfl (by decide)
      have notPacked : isPacked out = false := not_isPacked_of_spell (c := '\n') rfl (by decide) (Wrapper.trim_spell _ _)
      obtain ⟨again, calledAgain, report⟩ := unpackCode_call out
      refine ⟨encode code, _, out, field, render_plain _, broken, by simp [differs], fun _ => ⟨spell_broken _, notPacked,
        again, calledAgain, ?_⟩⟩
      rw [report, unpackReport, notPacked]
      rfl

theorem format_packed_anyDepth :
    ∃ run packed out, packCode.call (codeArgument "t(,") = .ok run ∧ run.report.succeeded = true ∧
      run.report.field? "code" = some (.text packed) ∧ format .anyDepth packed = .ok out ∧ out ≠ packed ∧
      isPacked out = false := by
  have called : packCode.call (codeArgument "t(,") = .ok (packCode.run (codeArgument "t(,")) := rfl
  have succeeded : (packCode.run (codeArgument "t(,")).report.succeeded = true := by decide +kernel
  obtain ⟨packed, payload, out, field, -, laidOut, same, broken⟩ := format_packed called succeeded .anyDepth
  have differs : out ≠ packed := fun unchanged => absurd (same.mp unchanged) (by decide)
  exact ⟨_, packed, out, called, succeeded, field, laidOut, differs, (broken differs).2.1⟩

end Bytebeat.Tool
