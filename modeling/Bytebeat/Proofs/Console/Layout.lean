import Bytebeat.Proofs.Console.Run
import Bytebeat.Proofs.Layout.LastLine
import Bytebeat.Proofs.Tool.Outcomes

namespace Bytebeat
namespace Layout

variable {config : Config} {code out : Text}

theorem mem_of_format (ran : format config code = .ok out) {c : CodePoint} (mem : c ∈ out) : c ∈ code ∨ c = '\n' := by
  rw [format_eq_insertBreaks ran] at mem
  exact mem_insertBreaks mem

end Layout

namespace Console
open Layout

variable {args : List Text} {stdin : List UInt8} {files : Files} {inv : Invocation} {code out : Text} {config : Config}
  {noParens : Bool} {depth : Int}

/-! ## Lines -/

theorem getLast?_endLine (t : Text) : (endLine t).getLast? = some ('\n' : CodePoint) := by
  unfold endLine
  split
  · assumption
  · exact List.getLast?_concat

theorem mem_endLine {t : Text} {c : CodePoint} (mem : c ∈ endLine t) : c ∈ t ∨ c = '\n' := by
  unfold endLine at mem
  split at mem
  · exact .inl mem
  · exact (List.mem_append.mp mem).imp_right List.mem_singleton.mp

theorem format_endLine (ran : format config code = .ok out) : format config (endLine out) = .ok (endLine out) := by
  unfold endLine
  split
  · exact format_of_format ran
  · rename_i unended
    exact scan_append_lineFeed (format_of_format ran) unended

/-! ## A run on code -/

theorem accepts_arguments (noParens : Bool) (depth : Int) (code : Text) :
    Tool.formatCode.Accepts ((Command.format noParens depth).arguments code) := by
  have handsIn : Tool.formatCode.HandsIn ((Command.format noParens depth).arguments code) code := by
    refine ⟨?_, rfl⟩
    show ∀ name ∈ ["code", "consider_parens", "max_paren_depth"].map Text.ofString, _
    decide
  apply handsIn.accepts (by decide)
  intro p mem other
  simp only [Tool.formatCode, List.mem_cons, List.not_mem_nil, or_false] at mem
  rcases mem with rfl | rfl | rfl
  · exact absurd rfl other
  all_goals
    refine ⟨rfl, fun v given => ?_⟩
    cases given
    rfl

theorem toolRun_format (formats : inv.command = .format noParens depth) (code : Text) :
    inv.toolRun code = Tool.formatCode.conclude (match Config.ofInt (!noParens) depth with
      | .error e => { outcome := .ok (.failure (.badConfig e) none) }
      | .ok config => Tool.layOut config code) := by
  rw [Invocation.toolRun, formats]
  show Tool.formatCode.run ((Command.format noParens depth).arguments code) = _
  rw [Tool.run_of_accepts (accepts_arguments noParens depth code) (by decide), Tool.formatCode_execute rfl]
  rfl

theorem runOn_of_badConfig (formats : inv.command = .format noParens depth) {e : ConfigError}
    (refused : Config.ofInt (!noParens) depth = .error e) (code : Text) :
    (inv.runOn code).exit = 1 ∧ (inv.runOn code).stdout = [] ∧ (inv.runOn code).stderr.hasSurrogate = false := by
  have run := toolRun_format formats code
  rw [refused] at run
  obtain rfl : e = .negativeDepth depth := by
    unfold Config.ofInt at refused
    split at refused <;> cases refused
    rfl
  have message : (Failure.message (.badConfig (.negativeDepth depth))).hasSurrogate = false := by
    rw [Failure.message, ConfigError.message, Text.endingWith_eq]
    split <;> simp [Text.tooManyDigits]
  rw [runOn_of_failure (congrArg Run.report run), run]
  exact ⟨rfl, rfl, by simp [Tool.conclude, Notice.log, message]⟩

theorem runOn_of_unbalanced (formats : inv.command = .format noParens depth)
    (made : Config.ofInt (!noParens) depth = .ok config) {i : Imbalance} (fails : format config code = .error i) :
    (inv.runOn code).exit = 1 ∧ (inv.runOn code).stdout = [] ∧ (inv.runOn code).stderr.hasSurrogate = false := by
  have run := toolRun_format formats code
  simp only [made, Tool.layOut, fails] at run
  have reason : i.reason.hasSurrogate = false := by
    cases i <;> exact Text.hasSurrogate_ofString _
  rw [runOn_of_failure (congrArg Run.report run), run]
  refine ⟨rfl, rfl, ?_⟩
  have plain : (Notice.log inv.level [⟨.info, Tool.formatLog, "format_code: " ++ i.reason⟩]).hasSurrogate = false := by
    apply Notice.hasSurrogate_log
    simp [Tool.formatLog, reason]
  simp [Tool.conclude, Failure.message, reason, plain]

theorem runOn_of_format (formats : inv.command = .format noParens depth)
    (made : Config.ofInt (!noParens) depth = .ok config) (ran : format config code = .ok out) :
    (inv.runOn code).exit = 0 ∧ (inv.runOn code).stdout = endLine out ∧
      (inv.runOn code).stderr.hasSurrogate = false := by
  have run := toolRun_format formats code
  rw [made] at run
  have report := congrArg Run.report run
  rw [Tool.report_conclude_of_ok (Tool.layOut_outcome ran)] at report
  refine ⟨?_, ?_, ?_⟩
  · rw [exit_runOn_eq_zero_iff, report]
    rfl
  · apply stdout_runOn
    · rw [report]
      rfl
    · rw [report, formats]
      rfl
  · have name : (Text.quoted "line_breaks_inserted").hasSurrogate = false := by decide +kernel
    apply hasSurrogate_stderr_runOn report
    · rw [run]
      simp [Tool.conclude, Tool.layOut, ran, Tool.formatLog]
    · simp [Value.display, Value.displayEntries, Text.join, name]

/-! ## A run on the output of a run -/

/-- A run lays the code out and prints it with a line feed at its end, or it prints nothing. -/
theorem runOn_format (formats : inv.command = .format noParens depth) (code : Text) :
    ((∃ config out, Config.ofInt (!noParens) depth = .ok config ∧ format config code = .ok out ∧
        (inv.runOn code).exit = 0 ∧ (inv.runOn code).stdout = endLine out) ∨
      ((inv.runOn code).exit = 1 ∧ (inv.runOn code).stdout = [])) ∧ (inv.runOn code).stderr.hasSurrogate = false := by
  cases made : Config.ofInt (!noParens) depth with
  | error e =>
      obtain ⟨exit, stdout, stderr⟩ := runOn_of_badConfig formats made code
      exact ⟨.inr ⟨exit, stdout⟩, stderr⟩
  | ok config =>
      cases ran : format config code with
      | error i =>
          obtain ⟨exit, stdout, stderr⟩ := runOn_of_unbalanced formats made ran
          exact ⟨.inr ⟨exit, stdout⟩, stderr⟩
      | ok out =>
          obtain ⟨exit, stdout, stderr⟩ := runOn_of_format formats made ran
          exact ⟨.inl ⟨config, out, rfl, ran, exit, stdout⟩, stderr⟩

theorem readable_endLine (ran : format config code = .ok out) (noReturn : ('\r' : CodePoint) ∉ code)
    (whole : code.hasSurrogate = false) :
    ('\r' : CodePoint) ∉ endLine out ∧ (endLine out).hasSurrogate = false := by
  have kept {c : CodePoint} (mem : c ∈ endLine out) : c ∈ code ∨ c = '\n' :=
    (mem_endLine mem).elim (mem_of_format ran) .inr
  refine ⟨fun mem => (kept mem).elim noReturn (by decide), ?_⟩
  rw [Text.hasSurrogate, List.any_eq_false] at whole ⊢
  intro c mem
  rcases kept mem with old | rfl
  · exact whole c old
  · decide

theorem run_format_again (asks : Asks args stdin files inv code.utf8) (formats : inv.command = .format noParens depth)
    (noReturn : ('\r' : CodePoint) ∉ code) (whole : code.hasSurrogate = false) (stream : ErrorStream) :
    ∃ o, run args stdin files stream = .ok o ∧ (o.exit = 0 ∨ o.exit = 1) ∧ (o.exit = 1 → o.stdout = []) ∧
      (o.exit = 0 → o.stdout.getLast? = some ('\n' : CodePoint) ∧
        ∀ args' stdin' files' inv', Asks args' stdin' files' inv' o.stdout.utf8 → inv'.command = inv.command →
          ∀ stream', ∃ o', run args' stdin' files' stream' = .ok o' ∧ o'.exit = 0 ∧ o'.stdout = o.stdout) := by
  have ends := run_of_asks asks whole noReturn stream
  obtain ⟨⟨config, out, made, ran, exit, stdout⟩ | ⟨exit, stdout⟩, stderr⟩ := runOn_format formats code
  · obtain ⟨noReturn', whole'⟩ := readable_endLine ran noReturn whole
    have written : (inv.runOn code).stdout.hasSurrogate = false := by rw [stdout, whole']
    refine ⟨inv.runOn code, ends.trans (encoded_of_whole written stderr stream), .inl exit, by simp [exit],
      fun _ => ⟨stdout ▸ getLast?_endLine out, ?_⟩⟩
    intro args' stdin' files' inv' asks' same stream'
    rw [stdout] at asks' ⊢
    obtain ⟨exit', stdout', stderr'⟩ := runOn_of_format (same.trans formats) made (format_endLine ran)
    have ended : endLine (endLine out) = endLine out := if_pos (getLast?_endLine out)
    rw [ended] at stdout'
    refine ⟨inv'.runOn (endLine out), ?_, exit', stdout'⟩
    rw [run_of_asks asks' whole' noReturn']
    exact encoded_of_whole ((congrArg Text.hasSurrogate stdout').trans whole') stderr' stream'
  · refine ⟨inv.runOn code, ends.trans (encoded_of_whole ?_ stderr stream), .inr exit, fun _ => stdout, by simp [exit]⟩
    rw [stdout]
    rfl

theorem run_format_again_literal :
    let code : Text := "f(a,\nb),'c,"
    let files : Files := { entries := [(["song.js"], some code.utf8)] }
    ∃ o, run ["format", "--max-paren-depth", "1", "song.js"] [] files .ofProcess = .ok o ∧ o.exit = 0 ∧
      o.stdout = "f(a,\nb),\n'c,\n" ∧
      ∃ o', run ["--verbose", "format", "--max-paren=1"] o.stdout.utf8 {} .ofProcess = .ok o' ∧ o'.exit = 0 ∧
        o'.stdout = o.stdout := by
  intro code files
  let inv : Invocation := { command := .format false 1, file := some "song.js" }
  have named : inv.path? = .ok (some (Path.ofText "song.js")) := rfl
  have asks : Asks ["format", "--max-paren-depth", "1", "song.js"] [] files inv code.utf8 := .file rfl named rfl
  have noReturn : ('\r' : CodePoint) ∉ code := by decide
  have whole : code.hasSurrogate = false := by decide
  have laidOut : format .shallow code = .ok "f(a,\nb),\n'c," := rfl
  have formats : inv.command = .format false 1 := rfl
  obtain ⟨exit, stdout, stderr⟩ := runOn_of_format formats rfl laidOut
  obtain ⟨o, ran, -, -, again⟩ := run_format_again asks formats noReturn whole .ofProcess
  obtain rfl : inv.runOn code = o := by
    rw [run_of_asks asks whole noReturn, encoded_of_whole (by decide +kernel) stderr] at ran
    exact Except.ok.inj ran
  have asks' : Asks ["--verbose", "format", "--max-paren=1"] (inv.runOn code).stdout.utf8 {}
      { verbose := true, command := .format false 1 } (inv.runOn code).stdout.utf8 :=
    .input rfl rfl
  exact ⟨_, ran, exit, stdout, (again exit).2 _ _ _ _ asks' rfl .ofProcess⟩

end Console
end Bytebeat
