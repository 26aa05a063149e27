import Bytebeat.Proofs.Packing.Again
import Bytebeat.Proofs.Tool.Unpack

namespace Bytebeat.Tool
open Packing

variable {code : Text} {run : Run}

theorem hasCommaSpace_iff {t : Text} : hasCommaSpace t = true ↔ (", " : Text) <:+: t := by
  induction t with
  | nil => simp [hasCommaSpace, Text.ofString]
  | cons c t ih =>
      rw [List.infix_cons_iff, prefix_commaSpace_iff, ← ih]
      cases t <;> simp [hasCommaSpace]

theorem unpackCode_call_encode (reversible : Reversible code) :
    ∃ once, unpackCode.call (codeArgument (encode code)) = .ok once ∧
      once.report.field? "code" = some (.text (normalize code)) := by
  obtain ⟨once, called, report⟩ := unpackCode_call (encode code)
  refine ⟨once, called, ?_⟩
  rw [report, unpackReport, (decode_encode_eq_normalize_iff code).mpr reversible]
  rfl

/-- How many spaces stand behind the normal form, and what unpacking gives if packing has reported no loss. -/
theorem normalize_pads (code : Text) :
    (∃ parts, Text.Splits ", " code parts ∧ parts.length = Text.places ", " code + 1 ∧
      collapse code = Text.join "," parts) ∧
    normalize code = collapse code ++ List.replicate (padding code) (' ' : CodePoint) ∧
    (normalize code).units.length % 2 = 0 ∧
    ∀ run, packCode.call (codeArgument code) = .ok run → run.report.succeeded = true →
      run.report.metadata?.bind (·.lookup ("lossy" : Text)) = some (Value.bool false) →
      ∃ packed once, run.report.field? "code" = some (.text packed) ∧
        unpackCode.call (codeArgument packed) = .ok once ∧ once.report.field? "code" =
          some (.text (code ++ if code.units.length % 2 = 0 then [] else (" " : Text))) := by
  refine ⟨?_, normalize_eq_collapse_append code, even_units_normalize code, ?_⟩
  · obtain ⟨parts, splits, length⟩ := exists_splits code
    exact ⟨parts, splits, length, by rw [← splits.joined, collapse_join splits.apart]⟩
  · intro run called succeeded notLossy
    obtain ⟨-, reversible, size, packedSize, report⟩ := packCode_reports called succeeded
    have lossless : ¬ (", " : Text) <:+: code := by
      rw [report] at notLossy
      have same : some (Value.bool (hasCommaSpace code)) = some (.bool false) := notLossy
      simp only [Option.some.injEq, Value.bool.injEq] at same
      rw [← hasCommaSpace_iff, same]
      decide
    obtain ⟨once, unpacked, field⟩ := unpackCode_call_encode reversible
    refine ⟨encode code, once, ?_, unpacked, ?_⟩
    · rw [report]
      rfl
    · rw [field, normalize_of_lossless lossless]

theorem normalize_pads_comma :
    ∃ run, packCode.call (codeArgument "t>>8,") = .ok run ∧ run.report.succeeded = true ∧
      run.report.metadata?.bind (·.lookup ("lossy" : Text)) = some (Value.bool false) ∧
      ∃ packed once, run.report.field? "code" = some (.text packed) ∧
        unpackCode.call (codeArgument packed) = .ok once ∧ once.report.field? "code" = some (.text "t>>8, ") := by
  have called : packCode.call (codeArgument "t>>8,") = .ok (packCode.run (codeArgument "t>>8,")) := rfl
  have succeeded : (packCode.run (codeArgument "t>>8,")).report.succeeded = true := by decide +kernel
  obtain ⟨-, -, size, packedSize, report⟩ := packCode_reports called succeeded
  have lossless : (packCode.run (codeArgument "t>>8,")).report.metadata?.bind (·.lookup ("lossy" : Text)) =
      some (Value.bool false) := by
    rw [report]
    rfl
  exact ⟨_, called, succeeded, lossless, (normalize_pads "t>>8,").2.2.2 _ called succeeded lossless⟩

/-! ## Packing again -/

theorem not_reversible_normalize_iff (latin : ∀ c ∈ code, c.val < 0x100) :
    ¬ Reversible (normalize code) ↔ ∃ i u, (normalize (normalize code)).units[2 * i]? = some u ∧ u.val = 0 := by
  have still : ∀ c ∈ normalize code, c.val ≤ 0xFF :=
    fun c mem => Nat.le_of_lt_succ (normalize_val_lt_iff.mpr latin c mem)
  constructor
  · intro lost
    refine Classical.byContradiction fun noZero => lost ⟨still, fun i u at_i zero => noZero ⟨i, u, at_i, zero⟩⟩
  · rintro ⟨i, u, at_i, zero⟩ reversible
    exact reversible.noZero i u at_i zero

theorem report_of_pack {report : Report} (called : packCode.call (codeArgument code) = .ok run)
    (ended : (pack code).outcome = .ok report) : run.report = report := by
  obtain ⟨_, again, same⟩ := packCode_call ended
  cases called.symm.trans again
  exact same

theorem packCode_call_of_plain (plain : isPacked code = false)
    (label : ∃ size, Size.label code.utf8Length = .ok size)
    (packedLabel : ∃ size, Size.label (encode code).utf8Length = .ok size)
    (called : packCode.call (codeArgument code) = .ok run) :
    (Reversible code ∧ run.report.field? "code" = some (.text (encode code)) ∧ run.report.error? = none) ∨
    (¬ Reversible code ∧ run.report.field? "code" = none ∧
      run.report.error? = some ("Packing reverted: the packed code does not round-trip." : Text)) := by
  obtain ⟨size, label⟩ := label
  obtain ⟨packedSize, packedLabel⟩ := packedLabel
  obtain ⟨packed, -⟩ | ⟨-, lost, ended⟩ | ⟨-, kept, ended⟩ := pack_outcome label packedLabel
  · rw [plain] at packed
    cases packed
  · rw [report_of_pack called ended]
    exact .inr ⟨lost, rfl, rfl⟩
  · rw [report_of_pack called ended]
    exact .inl ⟨kept, rfl, rfl⟩

/-- Packing what was unpacked gives the same wrapper unless a comma has two spaces and more after them. -/
theorem packCode_again (called : packCode.call (codeArgument code) = .ok run)
    (succeeded : run.report.succeeded = true) :
    ∃ packed once again, run.report.field? "code" = some (.text packed) ∧
      (encode (decode packed) = packed ↔ ¬ Followed ",  " code) ∧
      (normalize (normalize code) = normalize code ↔ ¬ Followed ",  " code) ∧
      unpackCode.call (codeArgument packed) = .ok once ∧
      once.report.field? "code" = some (.text (normalize code)) ∧
      packCode.call (codeArgument (normalize code)) = .ok again ∧
      (isPacked (normalize code) = false → (∃ size, Size.label (normalize code).utf8Length = .ok size) →
        (∃ size, Size.label (encode (normalize code)).utf8Length = .ok size) →
        (again.report.field? "code" = some (.text packed) ↔ ¬ Followed ",  " code) ∧
        (again.report.error? = some ("Packing reverted: the packed code does not round-trip." : Text) ↔
          ∃ i u, (normalize (normalize code)).units[2 * i]? = some u ∧ u.val = 0) ∧
        (again.report.error? = some ("Packing reverted: the packed code does not round-trip." : Text) ∨
          ∃ repacked, again.report.field? "code" = some (.text repacked))) := by
  obtain ⟨-, reversible, field⟩ := packCode_succeeded called succeeded
  obtain ⟨once, calledOnce, unpacked⟩ := unpackCode_call_encode reversible
  have latin := reversible.latin_lt
  have same := encode_normalize_iff latin
  have back : decode (encode code) = normalize code := (decode_encode_eq_normalize_iff code).mpr reversible
  have calledAgain : packCode.call (codeArgument (normalize code)) = .ok _ :=
    call_of_free ((packCode_handsIn (normalize code)).free (by decide))
  refine ⟨encode code, once, _, field, by rw [back, same], normalize_normalize_iff code, calledOnce, unpacked,
    calledAgain, fun plain label packedLabel => ?_⟩
  rw [← not_reversible_normalize_iff latin]
  obtain ⟨kept, repacked, noError⟩ | ⟨lost, noField, refused⟩ :=
    packCode_call_of_plain plain label packedLabel calledAgain
  · rw [repacked, noError, ← same]
    simp [kept]
  · -- The first packing went well, so the normal form that is packed now is another one.
    have moved : Followed ",  " code := by
      refine Classical.byContradiction fun settled => lost ?_
      rw [← normalize_normalize_iff] at settled
      exact reversible.normalize settled
    rw [noField, refused]
    simp [lost, moved]

theorem packCode_again_spaces :
    ∃ run packed once again, packCode.call (codeArgument "f(t, 2),  ") = .ok run ∧ run.report.succeeded = true ∧
      run.report.field? "code" = some (.text packed) ∧ unpackCode.call (codeArgument packed) = .ok once ∧
      once.report.field? "code" = some (.text "f(t,2), ") ∧ packCode.call (codeArgument "f(t,2), ") = .ok again ∧
      again.report.field? "code" = some (.text packed) := by
  have called : packCode.call (codeArgument "f(t, 2),  ") = .ok (packCode.run (codeArgument "f(t, 2),  ")) := rfl
  have succeeded : (packCode.run (codeArgument "f(t, 2),  ")).report.succeeded = true := by decide +kernel
  have normal : normalize "f(t, 2),  " = "f(t,2), " := by decide
  obtain ⟨packed, once, again, field, -, settled, calledOnce, unpacked, calledAgain, outcome⟩ :=
    packCode_again called succeeded
  rw [normal] at settled unpacked calledAgain outcome
  have repacked := outcome (by decide) ⟨_, Size.label_of_lt (by decide) _⟩ ⟨_, Size.label_of_lt (by decide) _⟩
  exact ⟨_, packed, once, again, called, succeeded, field, calledOnce, unpacked, calledAgain,
    repacked.1.mpr (settled.mp (by decide))⟩

theorem packCode_again_refused :
    let code : Text := "x,  \x00"
    let plain : Text := "x, \x00  "
    Followed ",  " code ∧ ∃ run once again, packCode.call (codeArgument code) = .ok run ∧
      run.report.succeeded = true ∧ run.report.field? "code" = some (.text (encode code)) ∧
      unpackCode.call (codeArgument (encode code)) = .ok once ∧ once.report.field? "code" = some (.text plain) ∧
      packCode.call (codeArgument plain) = .ok again ∧ again.report.succeeded = false ∧
      (∀ repacked, again.report.field? "code" ≠ some (.text repacked)) ∧
      again.report.error? = some ("Packing reverted: the packed code does not round-trip." : Text) := by
  intro code plain
  have called : packCode.call (codeArgument code) = .ok (packCode.run (codeArgument code)) := rfl
  have succeeded : (packCode.run (codeArgument code)).report.succeeded = true := by decide +kernel
  obtain ⟨-, reversible, field⟩ := packCode_succeeded called succeeded
  obtain ⟨once, calledOnce, unpacked⟩ := unpackCode_call_encode reversible
  have normal : normalize code = plain := by decide
  rw [normal] at unpacked
  have lost : ¬ Reversible plain := fun kept => kept.noZero 1 ⟨0, by decide⟩ (by decide) rfl
  have refused : (pack plain).outcome = .ok (.failure .notReversible none) := by
    rw [pack, if_neg (by decide), if_pos (mt (decode_encode_eq_normalize_iff plain).mp lost)]
  obtain ⟨again, calledAgain, report⟩ := packCode_call refused
  refine ⟨⟨"x", "\x00", rfl, ⟨0, by decide⟩, List.mem_singleton_self _, by decide⟩, _, once, again, called, succeeded,
    field, calledOnce, unpacked, calledAgain, ?_⟩
  rw [report]
  refine ⟨rfl, ?_, rfl⟩
  intro repacked same
  cases same

end Bytebeat.Tool
