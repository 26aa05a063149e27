import Bytebeat.Proofs.Console.Run
import Bytebeat.Proofs.Packing.Writable
import Bytebeat.Proofs.Tool.Unpack

/-!
The output of one command as the input of another.

What packing prints is the wrapper and a line feed. The wrapper holds no returns, since its payload holds nothing below
`0x100`, and it is printed only if it holds no surrogates, so it is read back as it is. The line feed is trimmed off,
and unpacking prints the normal form of the code (`run_unpack_of_run_pack`).
-/

namespace Bytebeat

namespace Packing

theorem decode_append_lineFeed (code : Text) : decode (code ++ "\n") = decode code := by
  have blank : ∀ c ∈ ("\n" : Text), c.isBlank = true := by decide
  have trimmed : (code ++ ("\n" : Text)).trim = code.trim := Text.trimWhere_append blank code
  rw [decode, decode, payload?, payload?, trimmed]

end Packing

namespace Console
open Packing

variable {args : List Text} {stdin bytes : List UInt8} {files : Files} {inv : Invocation} {code : Text} {o : Output}
  {stream : ErrorStream}

theorem runOn_pack (packs : inv.command = .pack) (exits : (inv.runOn code).exit = 0) :
    Reversible code ∧ (inv.runOn code).stdout = encode code ++ "\n" := by
  rw [exit_runOn_eq_zero_iff, Invocation.toolRun, packs] at exits
  have called : Tool.packCode.call (Tool.codeArgument code) = .ok (Tool.packCode.run (Tool.codeArgument code)) := rfl
  obtain ⟨-, reversible, field⟩ := Tool.packCode_succeeded called exits
  have last : (encode code).getLast? = some (')' : CodePoint) := by
    rw [encode, Wrapper.render_eq_spell, Wrapper.getLast?_spell]
  have result : (inv.toolRun code).report.field? inv.command.resultName = some (.text (encode code)) := by
    rw [Invocation.toolRun, packs]
    exact field
  have succeeded : (inv.toolRun code).report.succeeded = true := by
    rw [Invocation.toolRun, packs]
    exact exits
  rw [stdout_runOn succeeded result, endLine, last, if_neg (by decide)]
  exact ⟨reversible, rfl⟩

theorem runOn_unpack (unpacks : inv.command = .unpack) (code : Text) :
    (inv.runOn code).exit = 0 ∧ (inv.runOn code).stdout = endLine (decode code) ∧
      (inv.runOn code).stderr.hasSurrogate = false := by
  have unpacked : inv.toolRun code = Tool.unpackCode.conclude (Tool.unpack code) := by
    rw [Invocation.toolRun, unpacks]
    exact Tool.unpackCode_run code
  have names : (Text.quoted "packed_length").hasSurrogate = false ∧
      (Text.quoted "unpacked_length").hasSurrogate = false := by decide +kernel
  refine ⟨?_, ?_, ?_⟩
  · rw [exit_runOn_eq_zero_iff, unpacked]
    rfl
  · apply stdout_runOn
    · rw [unpacked]
      rfl
    · rw [unpacked, unpacks]
      rfl
  · apply hasSurrogate_stderr_runOn (congrArg Run.report unpacked)
    · rw [unpacked]
      intro n mem
      have only : n = ⟨.debug, Tool.unpackLog, "unpack_code: packed=" ++ (Value.bool (isPacked code)).display⟩ :=
        List.mem_singleton.mp mem
      rw [only]
      cases isPacked code <;> simp [Tool.unpackLog, Value.display]
    · simp [Value.display, Value.displayEntries, Text.join, names]

/-- Unpacking what packing prints succeeds and prints the normal form of the code. -/
theorem run_unpack_of_run_pack (asks : Asks args stdin files inv code.utf8) (packs : inv.command = .pack)
    (noReturn : ('\r' : CodePoint) ∉ code) (whole : code.hasSurrogate = false)
    (ran : run args stdin files stream = .ok o) (exits : o.exit = 0) {args' : List Text} {stdin' : List UInt8}
    {files' : Files} {inv' : Invocation} (asks' : Asks args' stdin' files' inv' o.stdout.utf8)
    (unpacks : inv'.command = .unpack) (stream' : ErrorStream) :
    o.stdout = encode code ++ "\n" ∧ ∃ o', run args' stdin' files' stream' = .ok o' ∧ o'.exit = 0 ∧ o'.stdout =
      normalize code ++ (if (normalize code).getLast? = some ('\n' : CodePoint) then [] else "\n") := by
  rw [run_of_asks asks whole noReturn] at ran
  obtain ⟨exit, stdout, writable⟩ := encoded_eq_ok ran
  obtain ⟨reversible, printed⟩ := runOn_pack packs (exit ▸ exits)
  -- What is printed must be read back as it is: it could be written, and no line end in it is changed.
  have noReturn' : ('\r' : CodePoint) ∉ (inv.runOn code).stdout := by
    rw [printed, List.mem_append, not_or]
    exact ⟨return_not_mem_encode reversible, by decide⟩
  have latin : ∀ c ∈ normalize code, c.val < 0x100 :=
    normalize_val_lt_iff.mpr fun c mem => Nat.lt_succ_of_le (reversible.latin c mem)
  have back : decode (inv.runOn code).stdout = normalize code := by
    rw [printed, decode_append_lineFeed, (decode_encode_eq_normalize_iff code).mpr reversible]
  obtain ⟨succeeds, prints, tells⟩ := runOn_unpack unpacks (inv.runOn code).stdout
  rw [back, endLine_eq] at prints
  rw [stdout] at asks'
  refine ⟨stdout.trans printed, _, ?_, succeeds, prints⟩
  rw [run_of_asks asks' writable noReturn']
  apply encoded_of_whole _ tells
  rw [prints, Text.hasSurrogate_append, Text.hasSurrogate_of_latin latin]
  split <;> rfl

theorem run_unpack_of_run_pack_halves :
    let code : Text := "ØaÜb,\n"
    let files : Files := { entries := [(["song.js"], some code.utf8)] }
    ∃ o, run ["--verbose", "pack", "song.js"] [] files .ofProcess = .ok o ∧ o.exit = 0 ∧
      ∃ o', run ["unpack"] o.stdout.utf8 {} .ofProcess = .ok o' ∧ o'.exit = 0 ∧ o'.stdout = code := by
  intro code files
  let inv : Invocation := { verbose := true, command := .pack, file := some "song.js" }
  have named : inv.path? = .ok (some (Path.ofText "song.js")) := rfl
  have asks : Asks ["--verbose", "pack", "song.js"] [] files inv code.utf8 := .file rfl named rfl
  have noReturn : ('\r' : CodePoint) ∉ code := by decide
  have whole : code.hasSurrogate = false := by decide
  have ran : run ["--verbose", "pack", "song.js"] [] files .ofProcess = .ok (inv.runOn code) := by
    rw [run_of_asks asks whole noReturn]
    exact encoded_of_whole (by decide +kernel) (by decide +kernel) _
  have exits : (inv.runOn code).exit = 0 := by decide +kernel
  have asks' : Asks ["unpack"] (inv.runOn code).stdout.utf8 {} { command := .unpack } (inv.runOn code).stdout.utf8 :=
    .input rfl rfl
  obtain ⟨-, o', ran', exits', printed⟩ :=
    run_unpack_of_run_pack asks rfl noReturn whole ran exits asks' rfl .ofProcess
  exact ⟨_, ran, exits, o', ran', exits', printed.trans (by decide +kernel)⟩

end Console
end Bytebeat
