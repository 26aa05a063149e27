import Bytebeat.Proofs.Tool.Call

namespace Bytebeat.Tool

def codeArgument (code : Text) : Arguments := .ofList [("code", .text code)]

theorem names_codeArgument (code : Text) : (codeArgument code).names = [("code" : Text)] := rfl

theorem given?_codeArgument (code : Text) : (codeArgument code).given? "code" = some (.text code) := rfl

theorem withText_withDefaults (tool : Tool) {description code : Text} {args : Arguments}
    (distinct : (tool.parameters.map Parameter.name).Nodup) (mem : codeParameter description ∈ tool.parameters)
    (given : args.given? "code" = some (.text code)) (next : Text → Execution) :
    withText (tool.withDefaults args) "code" next = next code := by
  have filled : (tool.withDefaults args).get? "code" = args.get? "code" :=
    get?_withDefaults_required distinct mem rfl args
  rw [withText, filled, (Arguments.given?_eq_some_iff.mp given).1]

/-! ## Arguments that hand in code -/

structure HandsIn (tool : Tool) (args : Arguments) (code : Text) : Prop where
  known : ∀ name ∈ args.names, name ∈ tool.declared
  code : args.given? "code" = some (.text code)

variable {tool : Tool} {args : Arguments} {code : Text}

theorem handsIn_codeArgument {description : Text} (mem : codeParameter description ∈ tool.parameters) (code : Text) :
    tool.HandsIn (codeArgument code) code := by
  refine ⟨?_, given?_codeArgument code⟩
  rw [names_codeArgument]
  intro name named
  rw [List.mem_singleton.mp named]
  exact List.mem_map_of_mem mem

theorem HandsIn.get? (handsIn : tool.HandsIn args code) : args.get? "code" = some (.text code) :=
  (Arguments.given?_eq_some_iff.mp handsIn.code).1

theorem HandsIn.free (handsIn : tool.HandsIn args code) (unreserved : reservedName ∉ tool.declared) :
    reservedName ∉ args.names :=
  fun held => unreserved (handsIn.known _ held)

theorem HandsIn.accepts (handsIn : tool.HandsIn args code)
    (isText : ∀ p ∈ tool.parameters, p.name = "code" → p.kind = .text)
    (others : ∀ p ∈ tool.parameters, p.name ≠ "code" →
      p.required = false ∧ ∀ v, args.given? p.name = some v → v.kind = p.kind) : tool.Accepts args := by
  refine ⟨handsIn.known, ?_, ?_⟩
  · intro p mem required
    by_cases isCode : p.name = "code"
    · rw [isCode, handsIn.code]
      exact Option.some_ne_none _
    · rw [(others p mem isCode).1] at required
      cases required
  · intro p mem v given
    by_cases isCode : p.name = "code"
    · rw [isCode, handsIn.code] at given
      cases given
      exact (isText p mem isCode).symm
    · exact (others p mem isCode).2 v given

theorem HandsIn.run_eq (handsIn : tool.HandsIn args code) {description : Text} {body : Text → Execution}
    (takes : tool.parameters = [codeParameter description])
    (executes : tool.execute = fun args => withText args "code" body) : tool.run args = tool.conclude (body code) := by
  have mem : codeParameter description ∈ tool.parameters := takes ▸ List.mem_singleton_self _
  have names : tool.declared = [("code" : Text)] := by
    rw [declared, takes]
    rfl
  have distinct : tool.declared.Nodup := by
    rw [names]
    simp
  have accepts : tool.Accepts args := by
    have only (p : Parameter) (isParameter : p ∈ tool.parameters) : p = codeParameter description :=
      List.mem_singleton.mp (takes ▸ isParameter)
    apply handsIn.accepts
    · exact fun p isParameter _ => only p isParameter ▸ rfl
    · exact fun p isParameter other => absurd (only p isParameter ▸ rfl) other
  have unreserved : reservedName ∉ tool.declared := by
    rw [names]
    decide
  rw [run_of_accepts accepts unreserved, executes]
  exact congrArg tool.conclude (withText_withDefaults tool distinct mem handsIn.code body)

end Bytebeat.Tool
