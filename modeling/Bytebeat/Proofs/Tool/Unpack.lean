import Bytebeat.Proofs.Packing.Delimiters
import Bytebeat.Proofs.Packing.Spaced
import Bytebeat.Proofs.Tool.Pack

namespace Bytebeat.Tool
open Packing

def unpackReport (code : Text) : Report :=
  .success [("code", .text (decode code)), ("changed", .bool (isPacked code))]
    (some [("packed_length", .int code.length), ("unpacked_length", .int (decode code).length)])

theorem unpackCode_handsIn (code : Text) : unpackCode.HandsIn (codeArgument code) code :=
  handsIn_codeArgument List.mem_cons_self code

theorem unpackCode_run (code : Text) : unpackCode.run (codeArgument code) = unpackCode.conclude (unpack code) :=
  (unpackCode_handsIn code).run_eq rfl rfl

theorem unpackCode_call (code : Text) :
    ∃ run, unpackCode.call (codeArgument code) = .ok run ∧ run.report = unpackReport code := by
  refine ⟨_, call_of_free ((unpackCode_handsIn code).free (by decide)), ?_⟩
  rw [unpackCode_run]
  rfl

theorem decode_of_not_isPacked {code : Text} (plain : isPacked code = false) : decode code = code.trim := by
  rw [isPacked, Option.isSome_eq_false_iff, Option.isNone_iff_eq_none] at plain
  rw [decode, plain]

theorem isPacked_iff_matched_or_mixed {code : Text} :
    isPacked code = true ↔ ∃ payload, Matched code.trim payload ∨ Mixed code.trim payload := by
  simp only [isPacked, Option.isSome_iff_exists, payload?_eq_some_iff, spells_iff_matched_or_mixed]

/-- Code is changed if it is a wrapper, between delimiters that match or that do not, and trimmed otherwise. -/
theorem unpackCode_changes (code : Text) :
    ∃ run, unpackCode.call (codeArgument code) = .ok run ∧ run.report.succeeded = true ∧
      run.report.field? "code" = some (.text (decode code)) ∧
      run.report.field? "changed" = some (.bool (isPacked code)) ∧
      (isPacked code = true ↔ ∃ payload, Matched code.trim payload ∨ Mixed code.trim payload) ∧
      (∀ payload, Matched code.trim payload ∨ Mixed code.trim payload → decode code = unpackPayload payload) ∧
      (∀ payload other, Mixed code.trim payload → ¬ Matched code.trim other) ∧
      (isPacked code = false → decode code = code.trim) := by
  obtain ⟨run, called, report⟩ := unpackCode_call code
  refine ⟨run, called, ?_, ?_, ?_, isPacked_iff_matched_or_mixed, ?_, ?_, decode_of_not_isPacked⟩
  · rw [report]
    rfl
  · rw [report]
    rfl
  · rw [report]
    rfl
  · intro payload spells
    rw [decode, payload?_eq_some_iff.mpr (spells_iff_matched_or_mixed.mpr spells)]
  · exact fun _ _ => not_matched_of_mixed

theorem unpackCode_changes_mixed :
    let code : Text := "eval(unescape(escape\x60琪').replace(/u(..)/g,\"$1%\")))"
    (∀ payload, ¬ Matched code.trim payload) ∧ isPacked code = true ∧ decode code = "t*" ∧
    ∃ run, unpackCode.call (codeArgument code) = .ok run ∧ run.report.field? "changed" = some (.bool true) := by
  intro code
  have mixed : Mixed code.trim "琪" := ⟨("\x60", "')"), by decide, '"', by decide, '"', by decide, by decide +kernel⟩
  obtain ⟨run, called, report⟩ := unpackCode_call code
  refine ⟨fun _ => not_matched_of_mixed mixed, by decide +kernel, by decide +kernel, run, called, ?_⟩
  have packed : isPacked code = true := by decide +kernel
  rw [report, unpackReport, packed]
  rfl

/-! ## After packing -/

theorem packCode_reports {code : Text} {run : Run} (called : packCode.call (codeArgument code) = .ok run)
    (succeeded : run.report.succeeded = true) :
    isPacked code = false ∧ Reversible code ∧ ∃ size packedSize, run.report = .success
      [("code", .text (encode code)), ("original_size", .text size), ("packed_size", .text packedSize)]
      (some (packMetadata code)) := by
  obtain rfl : run = packCode.conclude (pack code) := by
    rw [← packCode_run]
    exact Except.ok.inj (called.symm.trans (call_of_free ((packCode_handsIn code).free (by decide))))
  obtain ⟨-, ended⟩ | ⟨-, -, ended⟩ | ⟨-, -, -, ended⟩ | ⟨plain, kept, size, packedSize, -, -, ended⟩ := pack_ends code
  · rw [report_conclude_of_ok ended] at succeeded
    cases succeeded
  · rw [report_conclude_of_ok ended] at succeeded
    cases succeeded
  · rw [report_conclude_of_error ended (sound_pack code).printable] at succeeded
    cases succeeded
  · exact ⟨plain, kept, size, packedSize, report_conclude_of_ok ended⟩

theorem packCode_succeeded {code : Text} {run : Run} (called : packCode.call (codeArgument code) = .ok run)
    (succeeded : run.report.succeeded = true) :
    isPacked code = false ∧ Reversible code ∧ run.report.field? "code" = some (.text (encode code)) := by
  obtain ⟨plain, kept, size, packedSize, report⟩ := packCode_reports called succeeded
  refine ⟨plain, kept, ?_⟩
  rw [report]
  rfl

/-- Unpacking packed code gives its normal form, which is packed in turn if only a space kept the code from it. -/
theorem unpackCode_of_packCode {code : Text} {run : Run} (called : packCode.call (codeArgument code) = .ok run)
    (succeeded : run.report.succeeded = true) :
    ∃ packed once twice again, run.report.field? "code" = some (.text packed) ∧
      unpackCode.call (codeArgument packed) = .ok once ∧
      once.report.field? "code" = some (.text (normalize code)) ∧ once.report.field? "changed" = some (.bool true) ∧
      unpackCode.call (codeArgument (normalize code)) = .ok twice ∧
      twice.report.field? "changed" = some (.bool again) ∧ (again = true ↔ Spaced code.trim) ∧
      (again = false → twice.report.field? "code" = some (.text (normalize code).trim)) := by
  obtain ⟨plain, kept, field⟩ := packCode_succeeded called succeeded
  obtain ⟨once, calledOnce, first⟩ := unpackCode_call (encode code)
  obtain ⟨twice, calledTwice, second⟩ := unpackCode_call (normalize code)
  have back : decode (encode code) = normalize code := (decode_encode_eq_normalize_iff code).mpr kept
  refine ⟨encode code, once, twice, isPacked (normalize code), field, calledOnce, ?_, ?_, calledTwice, ?_, ?_, ?_⟩
  · rw [first, unpackReport, back]
    rfl
  · rw [first, unpackReport, isPacked_encode]
    rfl
  · rw [second]
    rfl
  · rw [isPacked_normalize_iff, plain]
    simp
  · intro notPacked
    rw [second, unpackReport, decode_of_not_isPacked notPacked]
    rfl

theorem unpackCode_of_packCode_plain :
    ∃ run, packCode.call (codeArgument "t, t>>8") = .ok run ∧ run.report.succeeded = true ∧
      ∃ twice, unpackCode.call (codeArgument "t,t>>8  ") = .ok twice ∧
        twice.report.field? "changed" = some (.bool false) := by
  have called : packCode.call (codeArgument "t, t>>8") = .ok (packCode.run (codeArgument "t, t>>8")) := rfl
  have succeeded : (packCode.run (codeArgument "t, t>>8")).report.succeeded = true := by decide +kernel
  obtain ⟨-, -, twice, again, -, -, -, -, calledTwice, changed, spaced, -⟩ := unpackCode_of_packCode called succeeded
  refine ⟨_, called, succeeded, twice, calledTwice, ?_⟩
  have plain : ¬ Spaced (Text.trim "t, t>>8") := by
    intro isSpaced
    obtain ⟨w, written⟩ := Wrapper.spaced_iff.mp isSpaced
    have last := w.getLast?_spell ", "
    rw [← written] at last
    exact absurd last (by decide)
  rw [changed, Bool.eq_false_iff.mpr (mt spaced.mp plain)]

/-- A wrapper but for the space after its comma: packing takes it for code, and unpacking gives the wrapper. -/
theorem unpackCode_changes_again :
    let code : Text := "eval(unescape(escape\x60ab\x60.replace(/u(..)/g, \"$1%\")))"
    let plain : Text := "eval(unescape(escape\x60ab\x60.replace(/u(..)/g,\"$1%\")))  "
    ∃ run once twice, packCode.call (codeArgument code) = .ok run ∧ run.report.succeeded = true ∧
      run.report.field? "code" = some (.text (encode code)) ∧
      unpackCode.call (codeArgument (encode code)) = .ok once ∧ once.report.field? "code" = some (.text plain) ∧
      unpackCode.call (codeArgument plain) = .ok twice ∧ twice.report.field? "changed" = some (.bool true) := by
  intro code plain
  have called : packCode.call (codeArgument code) = .ok (packCode.run (codeArgument code)) := rfl
  have succeeded : (packCode.run (codeArgument code)).report.succeeded = true := by decide +kernel
  obtain ⟨once, calledOnce, first⟩ := unpackCode_call (encode code)
  obtain ⟨twice, calledTwice, second⟩ := unpackCode_call plain
  refine ⟨_, once, twice, called, succeeded, (packCode_succeeded called succeeded).2.2, calledOnce, ?_, calledTwice, ?_⟩
  · have unpacked : decode (encode code) = plain := by decide +kernel
    rw [first, unpackReport, unpacked]
    rfl
  · have packed : isPacked plain = true := by decide +kernel
    rw [second, unpackReport, packed]
    rfl

end Bytebeat.Tool
