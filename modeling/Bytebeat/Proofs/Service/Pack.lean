import Bytebeat.Proofs.Packing.Writable
import Bytebeat.Proofs.Service.Framework
import Bytebeat.Proofs.Tool.Call
import Bytebeat.Proofs.Tool.Pack

namespace Bytebeat

namespace Size

theorem hasSurrogate_hundredths (n : Nat) : (hundredths n).hasSurrogate = false := by
  simp [hundredths]

theorem hasSurrogate_render? {scale : Scale} (plain : ∀ name ∈ scale.units, name.hasSurrogate = false) {size : Nat}
    {t : Text} (rendered : scale.render? size = some t) : t.hasSurrogate = false := by
  have plainName (power : Nat) : (scale.units[power]?.getD []).hasSurrogate = false := by
    cases found : scale.units[power]? with
    | none => rfl
    | some name => exact plain name (List.mem_of_getElem? found)
  simp only [Scale.render?] at rendered
  split at rendered
  · cases rendered
    simp [plainName]
  · obtain ⟨x, -, rfl⟩ := Option.map_eq_some_iff.mp rendered
    simp [plainName, hasSurrogate_hundredths]

theorem hasSurrogate_label {size : Int} {compact : Bool} {t : Text} (labelled : label size compact = .ok t) :
    t.hasSurrogate = false := by
  unfold label at labelled
  split at labelled
  · cases labelled
  · split at labelled
    · cases labelled
      simp
    · split at labelled
      · rename_i binaryPart decimalPart
        have first := hasSurrogate_render? (by decide) binaryPart
        have second := hasSurrogate_render? (by decide) decimalPart
        cases labelled
        cases compact <;> simp [first, second]
      · cases labelled

end Size

namespace Tool
open Packing

theorem packCode_report (code : Text) :
    (∃ cause, (packCode.run (codeArgument code)).report = .failure cause none ∧
      cause.message.hasSurrogate = false) ∨
    (Reversible code ∧ ∃ size packedSize, size.hasSurrogate = false ∧ packedSize.hasSurrogate = false ∧
      (packCode.run (codeArgument code)).report = .success
        [("code", .text (encode code)), ("original_size", .text size), ("packed_size", .text packedSize)]
        (some (packMetadata code))) := by
  rw [packCode_run]
  obtain ⟨-, ended⟩ | ⟨-, -, ended⟩ | ⟨-, -, -, ended⟩ | ⟨-, kept, size, packedSize, label, packedLabel, ended⟩ :=
    pack_ends code
  · exact .inl ⟨_, report_conclude_of_ok ended, Text.hasSurrogate_ofString _⟩
  · exact .inl ⟨_, report_conclude_of_ok ended, Text.hasSurrogate_ofString _⟩
  · exact .inl ⟨_, report_conclude_of_error ended (sound_pack code).printable, by decide⟩
  · exact .inr ⟨kept, size, packedSize, Size.hasSurrogate_label label, Size.hasSurrogate_label packedLabel,
      report_conclude_of_ok ended⟩

end Tool

namespace Service
open Packing

theorem isWritable_orNull (t : Option Text) : Json.isWritable (orNull t) = !t.any Text.hasSurrogate := by
  cases t <;> rfl

theorem isWritable_packReply (reply : PackReply) : Json.isWritable reply.toValue =
    !(reply.code.any Text.hasSurrogate || reply.error.any Text.hasSurrogate ||
      reply.sourceSize.any Text.hasSurrogate || reply.packedSize.any Text.hasSurrogate) := by
  simp [PackReply.toValue, Json.isWritable, Json.areWritableEntries, isWritable_orNull, Bool.and_assoc]

variable {f : Framework} {s next : State} {settings : Settings} {r : Request} {code : Text}

theorem handle_of_packed (lawful : f.Lawful) (posts : PostsCode r .pack code)
    (resolved : s.requestSettings = .ok (settings, next)) :
    (s.handle r f).2 = f.finish r (f.write ((packCode settings { code }).map PackReply.toValue)) := by
  obtain ⟨payload, read, checked⟩ := lawful.check_of_code? posts.code
  have found : Route.ofPath? r.path = some .pack := posts.path ▸ Route.ofPath?_path .pack
  rw [State.handle_of_payload lawful s posts.method found rfl read, State.callRoute, State.withSettings_of_ok resolved,
    checked]
  rfl

theorem answered_of_handsIn {tool : Tool} {args : Arguments} (builtin : tool ∈ Tool.builtin)
    (handsIn : tool.HandsIn args code) : answered (tool.call args) = .ok (tool.run args).report := by
  rw [Tool.call_of_free (handsIn.free (Tool.unreserved_of_builtin builtin)), answered]
  simp only [Except.toOption, Option.bind_some, Tool.report?_run_of_builtin builtin]

theorem answered_packCode (code : Text) :
    answered (Tool.packCode.call (codeArguments code)) = .ok (Tool.packCode.run (Tool.codeArgument code)).report :=
  answered_of_handsIn (by simp [Tool.builtin]) (Tool.packCode_handsIn code)

theorem checkLength_of_le (short : code.length ≤ settings.maxCodeLength) : checkLength settings code = .ok () :=
  if_neg (Nat.not_lt.mpr short)

theorem packCode_of_failure {cause : Failure} {metadata : Option Fields}
    (short : code.length ≤ settings.maxCodeLength)
    (failed : (Tool.packCode.run (Tool.codeArgument code)).report = .failure cause metadata) :
    packCode settings { code } = .ok { ok := false, error := some cause.message } := by
  rw [packCode, checkLength_of_le short, answered_packCode, failed]
  rfl

theorem packCode_of_success {size packedSize : Text} {metadata : Option Fields}
    (short : code.length ≤ settings.maxCodeLength)
    (succeeded : (Tool.packCode.run (Tool.codeArgument code)).report = .success
      [("code", .text (encode code)), ("original_size", .text size), ("packed_size", .text packedSize)] metadata) :
    packCode settings { code } =
      .ok { ok := true, code := some (encode code), sourceSize := some size, packedSize := some packedSize } := by
  rw [packCode, checkLength_of_le short, answered_packCode, succeeded]
  rfl

theorem tells_of_failure (lawful : f.Lawful) (posts : PostsCode r .pack code)
    (resolved : s.requestSettings = .ok (settings, next)) (short : code.length ≤ settings.maxCodeLength)
    {cause : Failure} {metadata : Option Fields}
    (failed : (Tool.packCode.run (Tool.codeArgument code)).report = .failure cause metadata)
    (plain : cause.message.hasSurrogate = false) :
    (s.handle r f).2.Tells (PackReply.toValue { ok := false, error := some cause.message }) := by
  rw [handle_of_packed lawful posts resolved, packCode_of_failure short failed]
  apply lawful.tells
  simp [isWritable_packReply, plain]

theorem handle_of_success (lawful : f.Lawful) (posts : PostsCode r .pack code)
    (resolved : s.requestSettings = .ok (settings, next)) (short : code.length ≤ settings.maxCodeLength) {size packedSize : Text} {metadata : Option Fields}
    (plain : size.hasSurrogate = false) (plainPacked : packedSize.hasSurrogate = false)
    (succeeded : (Tool.packCode.run (Tool.codeArgument code)).report = .success
      [("code", .text (encode code)), ("original_size", .text size), ("packed_size", .text packedSize)] metadata) :
    ((encode code).hasSurrogate = true → (s.handle r f).2.status = 500) ∧
    ((encode code).hasSurrogate = false → (s.handle r f).2.Tells (PackReply.toValue
      { ok := true, code := some (encode code), sourceSize := some size, packedSize := some packedSize })) := by
  rw [handle_of_packed lawful posts resolved, packCode_of_success short succeeded]
  constructor
  · intro half
    apply lawful.status_of_unwritable
    simp [isWritable_packReply, half]
  · intro whole
    apply lawful.tells
    simp [isWritable_packReply, whole, plain, plainPacked]

/-- Packing is answered with its outcome, unless it succeeds with half a surrogate pair. -/
theorem pack_answers (posts : PostsCode r .pack code) (resolved : s.requestSettings = .ok (settings, next))
    (short : code.length ≤ settings.maxCodeLength) :
    ∃ run, Tool.packCode.call (Tool.codeArgument code) = .ok run ∧
      ((s.handle r).2.status = 500 ↔ run.report.succeeded = true ∧ PacksToHalf code) ∧
      (run.report.succeeded = true → ((encode code).hasSurrogate = true ↔ PacksToHalf code)) ∧
      (∀ message, run.report.error? = some message →
        (s.handle r).2.Tells (PackReply.toValue { ok := false, error := some message })) ∧
      (run.report.succeeded = true → ¬ PacksToHalf code → ∃ size packedSize,
        run.report.field? "original_size" = some (.text size) ∧
        run.report.field? "packed_size" = some (.text packedSize) ∧
        (s.handle r).2.Tells (PackReply.toValue
          { ok := true, code := some (encode code), sourceSize := some size, packedSize := some packedSize })) := by
  refine ⟨_, Tool.call_of_free (by rw [Tool.names_codeArgument]; decide), ?_⟩
  obtain ⟨cause, failed, plain⟩ | ⟨kept, size, packedSize, plain, plainPacked, succeeded⟩ := Tool.packCode_report code
  · have tells := tells_of_failure lawful_standard posts resolved short failed plain
    rw [failed]
    refine ⟨iff_of_false tells.status_ne (fun ⟨success, _⟩ => nomatch success), nofun, ?_, nofun⟩
    rintro message ⟨⟩
    exact tells
  · have half := hasSurrogate_encode_iff fun c mem => Nat.lt_succ_of_le (kept.latin c mem)
    obtain ⟨broken, tells⟩ := handle_of_success lawful_standard posts resolved short plain plainPacked succeeded
    have told (isWhole : ¬ PacksToHalf code) := tells (Bool.eq_false_iff.mpr (mt half.mp isWhole))
    rw [succeeded]
    refine ⟨⟨fun failed => ⟨rfl, ?_⟩, fun ⟨_, isHalf⟩ => broken (half.mpr isHalf)⟩, fun _ => half, nofun, ?_⟩
    · exact Classical.byContradiction fun isWhole => (told isWhole).status_ne failed
    · exact fun _ isWhole => ⟨size, packedSize, rfl, rfl, told isWhole⟩

theorem pack_answers_halves :
    (∃ next, State.fresh.requestSettings = .ok ({}, next)) ∧
    (PostsCode (.ofCode .pack "Øa") .pack "Øa" ∧ (State.fresh.handle (.ofCode .pack "Øa")).2.status = 500) ∧
    PostsCode (.ofCode .pack "ØaÜb") .pack "ØaÜb" ∧ (State.fresh.handle (.ofCode .pack "ØaÜb")).2.status = 200 := by
  obtain ⟨next, resolved⟩ : ∃ next, State.fresh.requestSettings = .ok ({}, next) := ⟨_, rfl⟩
  have half : PostsCode (.ofCode .pack "Øa") .pack "Øa" := ⟨rfl, rfl, by decide +kernel⟩
  have whole : PostsCode (.ofCode .pack "ØaÜb") .pack "ØaÜb" := ⟨rfl, rfl, by decide +kernel⟩
  have reports (code : Text) (run : Run) (called : Tool.packCode.call (Tool.codeArgument code) = .ok run) :
      run = Tool.packCode.run (Tool.codeArgument code) :=
    (Except.ok.inj ((Tool.call_of_free (by rw [Tool.names_codeArgument]; decide)).symm.trans called)).symm
  obtain ⟨run, called, broken, -⟩ := pack_answers half resolved (by decide)
  obtain ⟨run', called', -, halves, -, told⟩ := pack_answers whole resolved (by decide)
  have succeeded : run.report.succeeded = true := by
    rw [reports _ run called]
    decide +kernel
  have succeeded' : run'.report.succeeded = true := by
    rw [reports _ run' called']
    decide +kernel
  have isHalf : PacksToHalf "Øa" := ⟨0, by decide +kernel⟩
  have isWhole : ¬ PacksToHalf "ØaÜb" := mt (halves succeeded').mpr (by decide +kernel)
  obtain ⟨size, packedSize, -, -, status, -⟩ := told succeeded' isWhole
  exact ⟨⟨next, resolved⟩, ⟨half, broken.mpr ⟨succeeded, isHalf⟩⟩, whole, status⟩

/-- Two characters that pack, and whose wrapper the service cannot write. -/
theorem handle_half_pair :
    PostsCode (.ofCode .pack "Øa") .pack "Øa" ∧ Text.hasSurrogate "Øa" = false ∧
    (∃ next, State.fresh.requestSettings = .ok ({}, next)) ∧ ("Øa" : Text).length ≤ ({} : Settings).maxCodeLength ∧
    (Tool.packCode.run (Tool.codeArgument "Øa")).report.succeeded = true ∧
    (encode "Øa").hasSurrogate = true ∧ (State.fresh.handle (.ofCode .pack "Øa")).2.status = 500 :=
  ⟨⟨rfl, rfl, by decide +kernel⟩, by decide, ⟨_, rfl⟩, by decide, by decide +kernel, by decide +kernel,
    by decide +kernel⟩

end Service
end Bytebeat
