import Bytebeat.Proofs.Packing.Pairs
import Bytebeat.Proofs.Size.Label
import Bytebeat.Proofs.Tool.Answers
import Bytebeat.Proofs.Tool.CodeArgument

namespace Bytebeat.Tool
open Packing

theorem packCode_handsIn (code : Text) : packCode.HandsIn (codeArgument code) code :=
  handsIn_codeArgument List.mem_cons_self code

theorem packCode_run (code : Text) : packCode.run (codeArgument code) = packCode.conclude (pack code) :=
  (packCode_handsIn code).run_eq rfl rfl

theorem packCode_call {code : Text} {report : Report} (packed : (pack code).outcome = .ok report) :
    ∃ run, packCode.call (codeArgument code) = .ok run ∧ run.report = report := by
  refine ⟨_, call_of_free ((packCode_handsIn code).free (by decide)), ?_⟩
  rw [packCode_run, report_conclude_of_ok packed]

def packMetadata (code : Text) : Fields :=
  [("original_length", .int code.length), ("packed_length", .int (encode code).length),
    ("original_bytes", .int code.utf8Length), ("packed_bytes", .int (encode code).utf8Length),
    ("lossy", .bool (hasCommaSpace code))]

/-- The ways in which packing ends: the last but one is that of a size that is too large for a label. -/
theorem pack_ends (code : Text) :
    (isPacked code = true ∧ (pack code).outcome = .ok (.failure .alreadyPacked none)) ∨
    (isPacked code = false ∧ ¬ Reversible code ∧ (pack code).outcome = .ok (.failure .notReversible none)) ∨
    (isPacked code = false ∧ Reversible code ∧ (Size.label code.utf8Length = .error .tooLarge ∨
      Size.label (encode code).utf8Length = .error .tooLarge) ∧
      (pack code).outcome = .error Size.LabelError.tooLarge.message) ∨
    (isPacked code = false ∧ Reversible code ∧ ∃ size packedSize, Size.label code.utf8Length = .ok size ∧
      Size.label (encode code).utf8Length = .ok packedSize ∧ (pack code).outcome = .ok (.success
        [("code", .text (encode code)), ("original_size", .text size), ("packed_size", .text packedSize)]
        (some (packMetadata code)))) := by
  have back := decode_encode_eq_normalize_iff code
  cases packed : isPacked code with
  | true => exact .inl ⟨rfl, by rw [pack, if_pos packed]⟩
  | false =>
      by_cases reversible : Reversible code
      · refine .inr (.inr ?_)
        unfold pack withLabel
        rw [packed, if_neg Bool.false_ne_true, if_neg (not_not_intro (back.mpr reversible))]
        obtain ⟨size, label⟩ | tooLarge := Size.label_ok_or_tooLarge code.utf8Length false
        · obtain ⟨packedSize, packedLabel⟩ | tooLarge := Size.label_ok_or_tooLarge (encode code).utf8Length false
          · exact .inr ⟨rfl, reversible, size, packedSize, label, packedLabel, by rw [label, packedLabel]; rfl⟩
          · exact .inl ⟨rfl, reversible, .inr tooLarge, by rw [label, tooLarge]⟩
        · exact .inl ⟨rfl, reversible, .inl tooLarge, by rw [tooLarge]⟩
      · refine .inr (.inl ⟨rfl, reversible, ?_⟩)
        rw [pack, packed, if_neg Bool.false_ne_true, if_pos (mt back.mp reversible)]

theorem pack_outcome {code : Text} {size packedSize : Text} (label : Size.label code.utf8Length = .ok size)
    (packedLabel : Size.label (encode code).utf8Length = .ok packedSize) :
    (isPacked code = true ∧ (pack code).outcome = .ok (.failure .alreadyPacked none)) ∨
    (isPacked code = false ∧ ¬ Reversible code ∧ (pack code).outcome = .ok (.failure .notReversible none)) ∨
    (isPacked code = false ∧ Reversible code ∧ (pack code).outcome = .ok (.success
      [("code", .text (encode code)), ("original_size", .text size), ("packed_size", .text packedSize)]
      (some (packMetadata code)))) := by
  obtain packed | lost | ⟨-, -, large, -⟩ | ⟨unpacked, reversible, size', packedSize', label', packedLabel', ended⟩ :=
    pack_ends code
  · exact .inl packed
  · exact .inr (.inl lost)
  · simp [label, packedLabel] at large
  · rw [label] at label'
    rw [packedLabel] at packedLabel'
    cases label'
    cases packedLabel'
    exact .inr (.inr ⟨unpacked, reversible, ended⟩)

theorem packCode_succeeds_iff {code : Text} (label : ∃ size, Size.label code.utf8Length = .ok size)
    (packedLabel : ∃ size, Size.label (encode code).utf8Length = .ok size) :
    ∃ run, packCode.call (codeArgument code) = .ok run ∧
      (run.report.succeeded = true ↔ isPacked code = false ∧ Reversible code) ∧
      (decode (encode code) = normalize code ↔ Reversible code) ∧
      (run.report.succeeded = true → run.report.field? "code" = some (.text (encode code))) ∧
      (isPacked code = true → run.report.error? = some "Code is already packed.") ∧
      (isPacked code = false → ¬ Reversible code →
        run.report.error? = some "Packing reverted: the packed code does not round-trip.") := by
  obtain ⟨size, label⟩ := label
  obtain ⟨packedSize, packedLabel⟩ := packedLabel
  have back := decode_encode_eq_normalize_iff code
  obtain ⟨packed, ended⟩ | ⟨unpacked, lost, ended⟩ | ⟨unpacked, kept, ended⟩ :=
    pack_outcome label packedLabel
  · obtain ⟨run, called, report⟩ := packCode_call ended
    refine ⟨run, called, ?_, back, ?_, ?_, ?_⟩ <;> rw [report]
    · simp [packed]
    · simp
    · exact fun _ => rfl
    · simp [packed]
  · obtain ⟨run, called, report⟩ := packCode_call ended
    refine ⟨run, called, ?_, back, ?_, ?_, ?_⟩ <;> rw [report]
    · simp [lost]
    · simp
    · simp [unpacked]
    · exact fun _ _ => rfl
  · obtain ⟨run, called, report⟩ := packCode_call ended
    refine ⟨run, called, ?_, back, ?_, ?_, ?_⟩ <;> rw [report]
    · simp [unpacked, kept]
    · exact fun _ => rfl
    · simp [unpacked]
    · simp [kept]

theorem packCode_refuses_zero_u :
    (∃ size, Size.label (Text.utf8Length "\x00u0") = .ok size) ∧
    (∃ size, Size.label (Text.utf8Length (encode "\x00u0")) = .ok size) ∧
    ∃ run, packCode.call (codeArgument "\x00u0") = .ok run ∧
      run.report.error? = some "Packing reverted: the packed code does not round-trip." := by
  have label : ∃ size, Size.label (Text.utf8Length "\x00u0") = .ok size := ⟨_, Size.label_of_lt (by decide) _⟩
  have packedLabel : ∃ size, Size.label (Text.utf8Length (encode "\x00u0")) = .ok size :=
    ⟨_, Size.label_of_lt (by decide) _⟩
  obtain ⟨run, called, -, -, -, -, refused⟩ := packCode_succeeds_iff label packedLabel
  have lost : ¬ Reversible "\x00u0" := fun reversible => reversible.noZero 0 ⟨0, by decide⟩ rfl rfl
  exact ⟨label, packedLabel, run, called, refused (by decide) lost⟩

/-! ## Packing twice -/

theorem isPacked_encode (code : Text) : isPacked (encode code) = true := by
  rw [isPacked, payload?_encode]
  rfl

theorem packCode_call_of_isPacked {code : Text} (packed : isPacked code = true) :
    ∃ run, packCode.call (codeArgument code) = .ok run ∧ run.report = .failure .alreadyPacked none := by
  apply packCode_call
  rw [pack, if_pos packed]

/-- Packing never runs out of units, is read back as exactly the pairs, and is not packed again. -/
theorem encode_is_recognised (code : Text) :
    ∃ payload values, payload? (encode code) = some payload ∧
      pairs? (normalize code).units = some values ∧ payload.units.map CodeUnit.val = values ∧
      (∀ value ∈ values, value ≤ 0xFFFF) ∧ 2 * values.length = (normalize code).units.length ∧
      isPacked (encode code) = true ∧
      ∃ run, packCode.call (codeArgument (encode code)) = .ok run ∧
        run.report = .failure .alreadyPacked none ∧ run.report.error? = some "Code is already packed." := by
  have even := even_units_normalize code
  obtain ⟨run, called, report⟩ := packCode_call_of_isPacked (isPacked_encode code)
  refine ⟨_, _, payload?_encode code, pairs?_of_even even, ?_, ?_, ?_, isPacked_encode code, run, called, report, ?_⟩
  · rw [Text.units_ofUnits]
  · intro value mem
    obtain ⟨u, -, rfl⟩ := List.mem_map.mp mem
    exact Nat.le_of_lt_succ u.isLt
  · rw [List.length_map, length_packUnits]
    omega
  · rw [report]
    rfl

end Bytebeat.Tool
