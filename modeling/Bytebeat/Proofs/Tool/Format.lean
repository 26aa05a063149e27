import Bytebeat.Proofs.Layout.Breaks
import Bytebeat.Proofs.Tool.CodeArgument

namespace Bytebeat

theorem Layout.Config.kinds_of_ofValues {considerParens maxParenDepth : Value} {config : Layout.Config}
    (made : ofValues considerParens maxParenDepth = .ok config) :
    considerParens.kind = .bool ∧ maxParenDepth.kind = .int := by
  unfold ofValues at made
  split at made
  · exact ⟨rfl, rfl⟩
  · cases made
  · cases made

namespace Tool
open Layout

theorem withValue_withDefaults {tool : Tool} (distinct : (tool.parameters.map Parameter.name).Nodup) {p : Parameter}
    (mem : p ∈ tool.parameters) (optional : p.required = false) (args : Arguments) (next : Value → Execution) :
    withValue (tool.withDefaults args) p.name next = next ((args.given? p.name).getD p.default) := by
  rw [withValue, get?_withDefaults_optional distinct mem optional]

/-- The arguments ask for a layout of some code under a config. -/
structure Requests (args : Arguments) (config : Config) (code : Text) : Prop where
  known : ∀ name ∈ args.names, name ∈ formatCode.parameters.map Parameter.name
  code : args.given? "code" = some (.text code)
  config : Config.ofValues ((args.given? "consider_parens").getD (.bool true))
    ((args.given? "max_paren_depth").getD (.int 0)) = .ok config

theorem exists_requests (config : Config) (code : Text) : ∃ args, Requests args config code :=
  ⟨.ofList [("code", .text code), ("consider_parens", .bool config.considerParens),
    ("max_paren_depth", .int config.maxParenDepth)], by
    refine ⟨?_, rfl, rfl⟩
    show ∀ name ∈ ["code", "consider_parens", "max_paren_depth"].map Text.ofString, _
    decide⟩

variable {args : Arguments} {config : Config} {code out : Text}

theorem Requests.handsIn (requests : Requests args config code) : formatCode.HandsIn args code :=
  ⟨requests.known, requests.code⟩

theorem Requests.accepts (requests : Requests args config code) : formatCode.Accepts args := by
  obtain ⟨flag, depth⟩ := Config.kinds_of_ofValues requests.config
  apply requests.handsIn.accepts (by decide)
  intro p mem other
  simp only [formatCode, List.mem_cons, List.not_mem_nil, or_false] at mem
  rcases mem with rfl | rfl | rfl
  · exact absurd rfl other
  · exact ⟨rfl, fun v given => by rwa [given, Option.getD_some] at flag⟩
  · exact ⟨rfl, fun v given => by rwa [given, Option.getD_some] at depth⟩

theorem formatCode_execute (given : args.given? "code" = some (.text code)) :
    formatCode.execute (formatCode.withDefaults args) =
      match Config.ofValues ((args.given? "consider_parens").getD (.bool true))
        ((args.given? "max_paren_depth").getD (.int 0)) with
      | .error e => { outcome := .ok (.failure (.badConfig e) none) }
      | .ok config => layOut config code := by
  have distinct : (formatCode.parameters.map Parameter.name).Nodup := by decide
  have flag (next : Value → Execution) : withValue (formatCode.withDefaults args) "consider_parens" next =
      next ((args.given? "consider_parens").getD (.bool true)) :=
    withValue_withDefaults distinct (p := formatCode.parameters[1]) (List.getElem_mem _) rfl args next
  have depth (next : Value → Execution) : withValue (formatCode.withDefaults args) "max_paren_depth" next =
      next ((args.given? "max_paren_depth").getD (.int 0)) :=
    withValue_withDefaults distinct (p := formatCode.parameters[2]) (List.getElem_mem _) rfl args next
  have text (next : Text → Execution) : withText (formatCode.withDefaults args) "code" next = next code :=
    withText_withDefaults formatCode distinct List.mem_cons_self given next
  exact (text _).trans ((flag _).trans (depth _))

theorem Requests.execute (requests : Requests args config code) :
    formatCode.execute (formatCode.withDefaults args) = layOut config code := by
  rw [formatCode_execute requests.code, requests.config]

theorem Requests.run_eq (requests : Requests args config code) :
    formatCode.run args = formatCode.conclude (layOut config code) := by
  rw [run_of_accepts requests.accepts (by decide), requests.execute]

theorem layOut_outcome (succeeds : format config code = .ok out) : (layOut config code).outcome =
    .ok (.success [("code", .text out), ("changed", .bool (decide (out ≠ code)))]
      (some [("line_breaks_inserted", .int (lineEnds config code).length)])) := by
  have inserted : (out.occurrences '\n' : Int) - code.occurrences '\n' = (lineEnds config code).length := by
    rw [occurrences_of_format succeeds]
    omega
  have changed : (0 : Int) < (lineEnds config code).length ↔ out ≠ code := by
    rw [ne_eq, eq_of_format_iff succeeds]
    omega
  unfold layOut
  rw [succeeds]
  simp only [inserted, changed]

theorem formatCode_call (requests : Requests args config code) (succeeds : format config code = .ok out) :
    ∃ run, formatCode.call args = .ok run ∧ run.report =
      .success [("code", .text out), ("changed", .bool (decide (out ≠ code)))]
        (some [("line_breaks_inserted", .int (lineEnds config code).length)]) := by
  refine ⟨_, call_of_free (requests.handsIn.free (by decide)), ?_⟩
  rw [requests.run_eq, report_conclude_of_ok (layOut_outcome succeeds)]

theorem format_inserts_breaks (succeeds : format config code = .ok out) :
    out = insertBreaks (EndsLine config code) 0 code ∧ joinLines out = joinLines code ∧
    ∀ args, Requests args config code → ∃ run, formatCode.call args = .ok run ∧ run.report =
      .success [("code", .text out), ("changed", .bool (decide (out ≠ code)))]
        (some [("line_breaks_inserted", .int (lineEnds config code).length)]) :=
  ⟨format_eq_insertBreaks succeeds, joinLines_of_format succeeds,
    fun _ requests => formatCode_call requests succeeds⟩

theorem format_inserts_breaks_shallow :
    format .shallow "f(a,[1,2],'\\',(',b),\n\"]," = .ok "f(a,\n[1,2],\n'\\',(',\nb),\n\"]," ∧
    ∃ run, formatCode.call (.ofList [("code", .text "f(a,[1,2],'\\',(',b),\n\"],"), ("max_paren_depth", .int 1)]) =
        .ok run ∧
      run.report = .success [("code", .text "f(a,\n[1,2],\n'\\',(',\nb),\n\"],"), ("changed", .bool true)]
        (some [("line_breaks_inserted", .int 3)]) := by
  have succeeds : format .shallow "f(a,[1,2],'\\',(',b),\n\"]," = .ok "f(a,\n[1,2],\n'\\',(',\nb),\n\"]," :=
    rfl
  have requests : Requests (.ofList [("code", .text "f(a,[1,2],'\\',(',b),\n\"],"), ("max_paren_depth", .int 1)])
      .shallow "f(a,[1,2],'\\',(',b),\n\"]," :=
    ⟨by decide, rfl, rfl⟩
  have three : (lineEnds .shallow "f(a,[1,2],'\\',(',b),\n\"],").length = 3 := by decide +kernel
  obtain ⟨run, called, report⟩ := (format_inserts_breaks succeeds).2.2 _ requests
  rw [three] at report
  exact ⟨succeeds, run, called, report⟩

end Tool
end Bytebeat
