import Bytebeat.Console.Run
import Bytebeat.Proofs.Text.Utf8

namespace Bytebeat

theorem Notice.hasSurrogate_log {notices : List Notice}
    (plain : ∀ n ∈ notices, n.source.hasSurrogate = false ∧ n.message.hasSurrogate = false) (least : Level) :
    (log least notices).hasSurrogate = false := by
  have lines (n : Notice) (mem : n ∈ notices) : n.line.hasSurrogate = false := by
    obtain ⟨source, message⟩ := plain n mem
    cases level : n.level <;> simp [line, level, Level.name, source, message]
  rw [log, Text.hasSurrogate, List.any_flatMap, List.any_eq_false]
  intro n mem
  rw [← Text.hasSurrogate, lines n (List.mem_filter.mp mem).1]
  exact Bool.false_ne_true

namespace Console

/-- A command line asks for a run on the bytes of the standard input, or on those of a file. -/
inductive Asks (args : List Text) (stdin : List UInt8) (files : Files) (inv : Invocation) : List UInt8 → Prop where
  | input (asked : Invocation.ofArguments args = .ok inv) (noFile : inv.path? = .ok none) :
      Asks args stdin files inv stdin
  | file {path : Path} {bytes : List UInt8} (asked : Invocation.ofArguments args = .ok inv)
      (named : inv.path? = .ok (some path)) (found : files.read path = .ok bytes) : Asks args stdin files inv bytes

def Invocation.toolRun (inv : Invocation) (code : Text) : Run := inv.command.tool.run (inv.command.arguments code)

variable {args : List Text} {stdin bytes : List UInt8} {files : Files} {inv : Invocation} {code t : Text} {o p : Output}
  {stream : ErrorStream}

/-! ## Input -/

theorem lineFeedsOnto_eq (noReturn : ('\r' : CodePoint) ∉ t) (done : Text) :
    lineFeedsOnto done t = done.reverse ++ t := by
  induction t generalizing done with
  | nil => simp [lineFeedsOnto]
  | cons c t ih =>
      rw [List.mem_cons, not_or] at noReturn
      unfold lineFeedsOnto
      rw [if_pos (Ne.symm noReturn.1), ih noReturn.2, List.reverse_cons, List.append_assoc]
      rfl

theorem lineFeeds_eq_self (noReturn : ('\r' : CodePoint) ∉ t) : lineFeeds t = t := lineFeedsOnto_eq noReturn []

theorem run_eq_runOnBytes (asks : Asks args stdin files inv bytes) (stream : ErrorStream) :
    run args stdin files stream = inv.runOnBytes bytes stream := by
  cases asks with
  | input asked noFile =>
      rw [run, asked]
      simp only [noFile]
      rfl
  | file asked named found =>
      rename_i path
      rw [run, asked]
      simp only [named]
      exact congrArg (inv.runOnFile path · stream) found

theorem run_of_asks (asks : Asks args stdin files inv code.utf8) (whole : code.hasSurrogate = false)
    (noReturn : ('\r' : CodePoint) ∉ code) (stream : ErrorStream) :
    run args stdin files stream = (inv.runOn code).encoded stream := by
  rw [run_eq_runOnBytes asks, Invocation.runOnBytes, Text.ofUtf8?_utf8 whole]
  exact congrArg (fun t => (inv.runOn t).encoded stream) (lineFeeds_eq_self noReturn)

/-! ## Output -/

theorem endLine_eq (t : Text) :
    endLine t = t ++ (if t.getLast? = some ('\n' : CodePoint) then [] else "\n") := by
  unfold endLine
  split <;> simp

theorem escapeSurrogates_eq_self (whole : t.hasSurrogate = false) : escapeSurrogates t = t := by
  induction t with
  | nil => rfl
  | cons c t ih =>
      rw [Text.hasSurrogate, List.any_cons, Bool.or_eq_false_iff] at whole
      rw [escapeSurrogates, List.flatMap_cons, whole.1, ← escapeSurrogates, ih whole.2]
      rfl

theorem encoded_of_whole (stdout : o.stdout.hasSurrogate = false) (stderr : o.stderr.hasSurrogate = false)
    (stream : ErrorStream) : o.encoded stream = .ok o := by
  cases stream with
  | captured => simp [Output.encoded, stdout, stderr]
  | ofProcess => simp [Output.encoded, stdout, escapeSurrogates_eq_self stderr]

theorem encoded_eq_ok (ran : o.encoded stream = .ok p) :
    p.exit = o.exit ∧ p.stdout = o.stdout ∧ o.stdout.hasSurrogate = false := by
  unfold Output.encoded at ran
  split at ran
  · cases ran
  · rename_i whole
    rw [Bool.not_eq_true] at whole
    cases stream with
    | captured =>
        dsimp only at ran
        split at ran
        · cases ran
        · cases ran
          exact ⟨rfl, rfl, whole⟩
    | ofProcess =>
        cases ran
        exact ⟨rfl, rfl, whole⟩

theorem exit_runOn_eq_zero_iff : (inv.runOn code).exit = 0 ↔ (inv.toolRun code).report.succeeded = true := by
  rw [Invocation.toolRun]
  simp only [Invocation.runOn]
  split
  · rename_i succeeded
    exact iff_of_true rfl succeeded
  · rename_i failed
    exact iff_of_false Nat.one_ne_zero failed

theorem stdout_runOn (succeeded : (inv.toolRun code).report.succeeded = true)
    (result : (inv.toolRun code).report.field? inv.command.resultName = some (.text t)) :
    (inv.runOn code).stdout = endLine t := by
  rw [Invocation.toolRun] at succeeded result
  simp only [Invocation.runOn, succeeded, result, if_pos]

theorem hasSurrogate_stderr_runOn {data : Fields} {metadata : Option Fields}
    (succeeded : (inv.toolRun code).report = .success data metadata)
    (told : ∀ n ∈ (inv.toolRun code).notices, n.source.hasSurrogate = false ∧ n.message.hasSurrogate = false)
    (shown : (metadata.elim Value.null .dict).display.hasSurrogate = false) :
    (inv.runOn code).stderr.hasSurrogate = false := by
  have name : inv.command.name.hasSurrogate = false := by
    cases inv.command <;> simp [Command.name]
  rw [Invocation.toolRun] at succeeded told
  simp only [Invocation.runOn, succeeded, Report.succeeded_success, if_pos, Text.hasSurrogate_append]
  rw [Notice.hasSurrogate_log told, Notice.hasSurrogate_log]
  · rfl
  · intro n mem
    rw [List.mem_singleton.mp mem]
    simp [name, shown, Report.success]

theorem runOn_of_failure {cause : Failure} {metadata : Option Fields}
    (failed : (inv.toolRun code).report = .failure cause metadata) : inv.runOn code =
      { exit := 1
        stderr := Notice.log inv.level (inv.toolRun code).notices ++ "error: " ++ cause.message ++ "\n" } := by
  rw [Invocation.toolRun] at failed ⊢
  simp only [Invocation.runOn, failed, Report.succeeded_failure, Report.error?_failure, Option.getD_some]
  rfl

end Console
end Bytebeat
