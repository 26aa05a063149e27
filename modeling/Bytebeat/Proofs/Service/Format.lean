import Bytebeat.Proofs.Service.Environment
import Bytebeat.Proofs.Service.Framework
import Bytebeat.Proofs.Service.Run

namespace Bytebeat.Service

def FormatRequest.configOver (r : FormatRequest) (default : Layout.Config) : Layout.Config where
  considerParens := r.considerParens.getD default.considerParens
  maxParenDepth := r.maxParenDepth.getD default.maxParenDepth

def FormatReply.ofOutcome (outcome : Layout.Outcome) : FormatReply where
  ok := outcome.toBool
  code := outcome.text?
  error := outcome.reason?

def formatAlone (settings : Settings) (r : FormatRequest) : Except Refusal FormatReply :=
  if r.code.length ≤ settings.maxCodeLength then
    .ok (.ofOutcome (Layout.format (r.configOver settings.formatConfig) r.code))
  else .error (.tooLong r.code.length settings.maxCodeLength)

structure FormatPost extends Request where
  posted : method = "POST"
  found : Route.ofPath? path = some .format

instance : Inhabited FormatPost where
  default := { Request.ofCode .format "t" with posted := rfl, found := Route.ofPath?_path .format }

def FormatPost.replyAlone (settings : Settings) (p : FormatPost) (f : Framework := .standard) : Reply :=
  let result : Except Refusal FormatReply := do
    let content ← p.payload
    let body ← f.checkFormat content
    formatAlone settings body
  f.finish p.toRequest (f.write (result.map FormatReply.toValue))

inductive FormatStep where
  | post (settings : Settings) (p : FormatPost)
  | formatter (settings : Settings)

inductive FormatAnswer where
  | reply (reply : Reply)
  | formatter (formatter : Layout.Formatter)

def FormatStep.answerAlone : FormatStep → FormatAnswer
  | post settings p => .reply (p.replyAlone settings)
  | formatter settings => .formatter { config := settings.formatConfig }

namespace State

def take (s : State) : FormatStep → State × FormatAnswer
  | .post settings p =>
    let (s, reply) := (s.setOverride (some settings)).handle p.toRequest
    (s, .reply reply)
  | .formatter settings =>
    let (kept, s) := s.getFormatter settings
    (s, .formatter kept.value)

def answers (s : State) : List FormatStep → List FormatAnswer
  | [] => []
  | step :: steps => (s.take step).2 :: (s.take step).1.answers steps

end State

/-! ## The options of a request -/

theorem FormatRequest.getD_config? (r : FormatRequest) (default : Layout.Config) :
    (r.config? default).getD default = r.configOver default := by
  unfold config? configOver
  split
  · rename_i unset
    obtain ⟨flag, depth⟩ := Bool.and_eq_true_iff.mp unset
    rw [Option.isNone_iff_eq_none.mp flag, Option.isNone_iff_eq_none.mp depth]
    rfl
  · rfl

theorem FormatRequest.ofValues_configOver (r : FormatRequest) (default : Layout.Config) :
    Layout.Config.ofValues (.bool (r.considerParens.getD default.considerParens))
      (.int (r.maxParenDepth.getD default.maxParenDepth)) = .ok (r.configOver default) :=
  ofInt_eq_ok_iff.mpr ⟨rfl, rfl⟩

/-! ## One request -/

theorem formatCode_eq_formatAlone (settings : Settings) (r : FormatRequest) :
    formatCode settings { config := settings.formatConfig } r = formatAlone settings r := by
  have merged : Layout.Formatter.format { config := settings.formatConfig } r.code (r.config? settings.formatConfig) =
      Layout.format (r.configOver settings.formatConfig) r.code := by
    rw [Layout.Formatter.format, r.getD_config?]
  unfold formatCode formatAlone checkLength
  split
  · rw [if_neg (by omega)]
    rfl
  · rw [if_pos (by omega), merged]
    rfl

theorem formatCode_getFormatter (s : State) (settings : Settings) (r : FormatRequest) :
    formatCode settings (s.getFormatter settings).1.value r = formatAlone settings r := by
  rw [s.formatter_getFormatter, formatCode_eq_formatAlone]

theorem handle_format {f : Framework} (lawful : f.Lawful) {s next : State} {settings : Settings}
    (resolved : s.requestSettings = .ok (settings, next)) (p : FormatPost) :
    (s.handle p.toRequest f).2 = p.replyAlone settings f := by
  rw [FormatPost.replyAlone]
  cases read : p.payload with
  | error refusal =>
      rw [State.handle, lawful.posted p.toRequest .format p.posted p.found rfl, read]
      rfl
  | ok content =>
      rw [State.handle_of_payload lawful s p.posted p.found rfl read, State.callRoute,
        State.withSettings_of_ok resolved]
      show f.finish p.toRequest (f.write ((f.checkFormat content >>=
        formatCode settings (next.getFormatter settings).1.value).map FormatReply.toValue)) = _
      rw [funext (formatCode_getFormatter next settings)]
      rfl

/-! ## Runs -/

theorem take_eq_answerAlone (s : State) (step : FormatStep) : (s.take step).2 = step.answerAlone := by
  cases step with
  | post settings p => exact congrArg FormatAnswer.reply (handle_format lawful_standard rfl p)
  | formatter settings => exact congrArg FormatAnswer.formatter (s.formatter_getFormatter settings)

theorem answers_eq_map (s : State) (steps : List FormatStep) : s.answers steps = steps.map FormatStep.answerAlone := by
  induction steps generalizing s with
  | nil => rfl
  | cons step steps ih => rw [State.answers, take_eq_answerAlone, ih, List.map_cons]

/-- From any state on, layouts depend on their own request and their own settings only. -/
theorem layouts_are_independent (s : State) :
    (∀ steps, s.answers steps = steps.map FormatStep.answerAlone) ∧
    (∀ settings body, formatCode settings (s.getFormatter settings).1.value body = formatAlone settings body) ∧
    ∀ (body : FormatRequest) (default : Layout.Config),
      Layout.Config.ofValues (.bool (body.considerParens.getD default.considerParens))
        (.int (body.maxParenDepth.getD default.maxParenDepth)) = .ok (body.configOver default) :=
  ⟨answers_eq_map s, formatCode_getFormatter s, FormatRequest.ofValues_configOver⟩

end Bytebeat.Service
