import Bytebeat.Proofs.Service.Format
import Bytebeat.Proofs.Service.Pack
import Bytebeat.Proofs.Tool.Registrations
import Bytebeat.Proofs.Tool.Runs

/-!
The routes for code and the route that calls tools by name.

Both check the length of the code first, against the same limit (`checkLength_of_lt`, `callTool_of_long`). From there
on a route for code and a call of its tool are told the same: `packCode_agrees`, `unpackCode_agrees`,
`measureCode_agrees` and `formatCode_agrees`, put together in `surfaces_agree`. A size with no label is measured by
neither, but no size below 2 ^ 1023 is one (`exists_measureCode`).
-/

namespace Bytebeat.Service
open Tool (HandsIn Measures Requests)

def TurnsAway {α : Type} (result : Except Refusal α) : Prop := ∃ refusal, result = .error refusal ∧ refusal.status = 413

namespace CallReply

def ofReport (report : Report) : CallReply where
  ok := report.succeeded
  data := report.data?
  error := report.error?
  metadata := report.metadata?

def field? (c : CallReply) (name : Text) : Option Value := c.data.bind (·.lookup name)

def note? (c : CallReply) (name : Text) : Option Value := c.metadata.bind (·.lookup name)

end CallReply

structure PackReply.Agrees (p : PackReply) (c : CallReply) : Prop where
  ok : p.ok = c.ok
  error : p.error = c.error
  code : p.code.map .text = c.field? "code"
  sourceSize : p.sourceSize.map .text = c.field? "original_size"
  packedSize : p.packedSize.map .text = c.field? "packed_size"

structure UnpackReply.Agrees (u : UnpackReply) (c : CallReply) : Prop where
  code : c.field? "code" = some (.text u.code)
  changed : c.field? "changed" = some (.bool u.changed)

structure SizeReply.Agrees (m : SizeReply) (c : CallReply) : Prop where
  bytes : c.field? "bytes" = some (.int m.bytes)
  label : c.field? "label" = some (.text m.label)

structure FormatReply.Agrees (f : FormatReply) (c : CallReply) : Prop where
  ok : f.ok = c.ok
  code : f.code.map .text = c.field? "code"
  error : ∀ reason : Text, f.error = some reason ↔
    c.error = some ("Format failed: " ++ reason ++ "!") ∧ c.note? "reason" = some (.text reason)

variable {settings : Settings} {code : Text} {registry : Registry} {tool : Tool} {params : Arguments}

/-! ## The length of the code -/

theorem checkLength_of_lt (long : settings.maxCodeLength < code.length) :
    checkLength settings code = .error (.tooLong code.length settings.maxCodeLength) :=
  if_pos long

theorem turnsAway_of_lt {α : Type} (long : settings.maxCodeLength < code.length) (next : Unit → Except Refusal α) :
    TurnsAway (checkLength settings code >>= next) :=
  ⟨_, by rw [checkLength_of_lt long]; rfl, rfl⟩

/-! ## Calls -/

theorem get?_standard (builtin : tool ∈ Tool.builtin) : Registry.standard.get? tool.name = some tool :=
  Registry.get?_of_mem builtin

theorem callTool_eq (found : registry.get? tool.name = some tool) (given : params.get? "code" = some (.text code)) :
    callTool settings registry ⟨tool.name, params⟩ = checkLength settings code >>= fun _ =>
      answered (tool.call params) >>= fun report => .ok (.ofReport report) := by
  unfold callTool
  rw [found, given]
  rfl

theorem callTool_of_long (found : registry.get? tool.name = some tool) (given : params.get? "code" = some (.text code))
    (long : settings.maxCodeLength < code.length) : TurnsAway (callTool settings registry ⟨tool.name, params⟩) := by
  rw [callTool_eq found given]
  exact turnsAway_of_lt long _

theorem callTool_of_handsIn (found : registry.get? tool.name = some tool) (builtin : tool ∈ Tool.builtin)
    (handsIn : tool.HandsIn params code) (short : code.length ≤ settings.maxCodeLength) :
    callTool settings registry ⟨tool.name, params⟩ = .ok (.ofReport (tool.run params).report) := by
  rw [callTool_eq found handsIn.get?, checkLength_of_le short, answered_of_handsIn builtin handsIn]
  rfl

/-! ## Pack -/

theorem packCode_agrees (short : code.length ≤ settings.maxCodeLength)
    (handsIn : HandsIn .packCode params code) :
    ∃ p, packCode settings { code } = .ok p ∧ p.Agrees (.ofReport (Tool.packCode.run params).report) := by
  have same : Tool.packCode.run params = Tool.packCode.run (Tool.codeArgument code) := by
    rw [Tool.packCode_run, handsIn.run_eq rfl rfl]
  rw [same]
  obtain ⟨cause, failed, -⟩ | ⟨-, size, packedSize, -, -, succeeded⟩ := Tool.packCode_report code
  · refine ⟨_, packCode_of_failure short failed, ?_⟩
    rw [failed]
    exact ⟨rfl, rfl, rfl, rfl, rfl⟩
  · refine ⟨_, packCode_of_success short succeeded, ?_⟩
    rw [succeeded]
    exact ⟨rfl, rfl, rfl, rfl, rfl⟩

/-! ## Unpack -/

theorem unpackCode_agrees (short : code.length ≤ settings.maxCodeLength)
    (handsIn : HandsIn .unpackCode params code) :
    ∃ u, unpackCode settings { code } = .ok u ∧ u.Agrees (.ofReport (Tool.unpackCode.run params).report) := by
  have run (args : Arguments) (handsIn : HandsIn .unpackCode args code) :
      Tool.unpackCode.run args = Tool.unpackCode.conclude (Tool.unpack code) := handsIn.run_eq rfl rfl
  have own : HandsIn .unpackCode (codeArguments code) code :=
    Tool.handsIn_codeArgument List.mem_cons_self code
  refine ⟨{ code := Packing.decode code, changed := Packing.isPacked code }, ?_, ?_⟩
  · rw [unpackCode, checkLength_of_le short, answered_of_handsIn (by simp [Tool.builtin]) own, run _ own]
    rfl
  · rw [run _ handsIn]
    exact ⟨rfl, rfl⟩

/-! ## Measure -/

theorem measures_codeArguments (code : Text) (compact : Bool) :
    Measures ((codeArguments code).insert "compact" (.bool compact)) compact code := by
  refine ⟨⟨?_, rfl⟩, rfl⟩
  show ∀ name ∈ ["code", "compact"].map Text.ofString, _
  decide

theorem measureCode_cases (short : code.length ≤ settings.maxCodeLength) (compact : Bool) :
    (∃ label, Size.label code.utf8Length compact = .ok label ∧
      measureCode settings { code, compact } = .ok { bytes := code.utf8Length, label }) ∨
    (Size.label code.utf8Length compact = .error .tooLarge ∧
      measureCode settings { code, compact } = .error .broken) := by
  have measures := measures_codeArguments code compact
  have told := answered_of_handsIn (by simp [Tool.builtin]) measures.toHandsIn
  obtain ⟨label, labelled, succeeded⟩ | ⟨tooLarge, cause, failed⟩ := Tool.codeSize_report measures
  · refine .inl ⟨label, labelled, ?_⟩
    rw [measureCode, checkLength_of_le short, told, succeeded]
    rfl
  · refine .inr ⟨tooLarge, ?_⟩
    rw [measureCode, checkLength_of_le short, told, failed]
    rfl

theorem measureCode_agrees (short : code.length ≤ settings.maxCodeLength) {compact : Bool}
    (measures : Measures params compact code) (m : SizeReply) :
    measureCode settings { code, compact } = .ok m ↔ m.Agrees (.ofReport (Tool.codeSize.run params).report) := by
  obtain ⟨label, labelled, succeeded⟩ | ⟨tooLarge, cause, failed⟩ := Tool.codeSize_report measures
  · obtain ⟨label', labelled', measured⟩ | ⟨tooLarge, -⟩ := measureCode_cases short compact
    · cases labelled.symm.trans labelled'
      rw [measured, succeeded]
      constructor
      · rintro ⟨⟩
        exact ⟨rfl, rfl⟩
      · cases m
        rintro ⟨bytes, label⟩
        cases bytes
        cases label
        rfl
    · cases labelled.symm.trans tooLarge
  · obtain ⟨label', labelled', -⟩ | ⟨-, broken⟩ := measureCode_cases short compact
    · cases labelled'.symm.trans tooLarge
    · rw [broken, failed]
      exact iff_of_false nofun fun agrees => nomatch agrees.bytes

theorem exists_measureCode (short : code.length ≤ settings.maxCodeLength) (small : code.utf8Length.log2 < 1023)
    (compact : Bool) : ∃ m, measureCode settings { code, compact } = .ok m := by
  obtain ⟨label, labelled⟩ := Size.exists_label small compact
  obtain ⟨label, -, measured⟩ | ⟨tooLarge, -⟩ := measureCode_cases short compact
  · exact ⟨_, measured⟩
  · cases labelled.symm.trans tooLarge

/-! ## Lay out -/

theorem formatCode_agrees (short : code.length ≤ settings.maxCodeLength) {flag : Bool} {depth : Nat}
    (requests : Requests params { considerParens := flag, maxParenDepth := depth } code) (s : State) :
    ∃ f, formatCode settings (s.getFormatter settings).1.value
        { code, considerParens := some flag, maxParenDepth := some depth } = .ok f ∧
      f.Agrees (.ofReport (Tool.formatCode.run params).report) := by
  rw [formatCode_getFormatter, formatAlone, if_pos short]
  refine ⟨_, rfl, ?_⟩
  show (FormatReply.ofOutcome (Layout.format { considerParens := flag, maxParenDepth := depth } code)).Agrees _
  obtain ⟨out, formatted, metadata, succeeded⟩ | ⟨i, refused, failed⟩ := Tool.formatCode_report requests
  · rw [formatted, succeeded]
    exact ⟨rfl, rfl, fun reason => iff_of_false nofun fun told => nomatch told.1⟩
  · rw [refused, failed]
    refine ⟨rfl, rfl, fun reason => ⟨?_, ?_⟩⟩
    · rintro ⟨⟩
      exact ⟨rfl, rfl⟩
    · rintro ⟨-, noted⟩
      cases noted
      rfl

/-! ## Both ways to a tool -/

/-- Code over the limit is turned away on both ways; other code is told the same on both, whatever happened before. -/
theorem surfaces_agree (settings : Settings) (code : Text) (here there : List Event) :
    let formatter := ((State.after here).getFormatter settings).1.value
    let call (name : Text) (params : Arguments) :=
      callTool settings (State.after there).getRegistry.1.value { name, params }
    (settings.maxCodeLength < code.length →
      (∀ flag depth, TurnsAway (formatCode settings formatter ⟨code, flag, depth⟩)) ∧
      TurnsAway (packCode settings ⟨code⟩) ∧
      TurnsAway (unpackCode settings ⟨code⟩) ∧
      (∀ compact, TurnsAway (measureCode settings ⟨code, compact⟩)) ∧
      ∀ tool ∈ Tool.builtin, ∀ params : Arguments, params.get? "code" = some (.text code) →
        TurnsAway (call tool.name params)) ∧
    (code.length ≤ settings.maxCodeLength →
      (∀ params, HandsIn .packCode params code →
        ∃ p c, packCode settings ⟨code⟩ = .ok p ∧ call "pack_code" params = .ok c ∧ p.Agrees c) ∧
      (∀ params, HandsIn .unpackCode params code →
        ∃ u c, unpackCode settings ⟨code⟩ = .ok u ∧ call "unpack_code" params = .ok c ∧ u.Agrees c) ∧
      (∀ compact params, Measures params compact code → ∃ c, call "code_size" params = .ok c ∧
        (∀ m, measureCode settings ⟨code, compact⟩ = .ok m ↔ m.Agrees c) ∧
        (code.utf8Length.log2 < 1023 → ∃ m, measureCode settings ⟨code, compact⟩ = .ok m)) ∧
      ∀ flag depth params, Requests params ⟨flag, depth⟩ code →
        ∃ f c, formatCode settings formatter ⟨code, some flag, some depth⟩ = .ok f ∧
          call "format_code" params = .ok c ∧ f.Agrees c) := by
  intro formatter call
  have found {tool : Tool} (builtin : tool ∈ Tool.builtin) :
      (State.after there).getRegistry.1.value.get? tool.name = some tool := by
    rw [State.getRegistry_after, get?_standard builtin]
  constructor
  · intro long
    exact ⟨fun _ _ => turnsAway_of_lt long _, turnsAway_of_lt long _, turnsAway_of_lt long _,
      fun _ => turnsAway_of_lt long _,
      fun _ builtin _ given => callTool_of_long (found builtin) given long⟩
  · intro short
    have told (tool : Tool) (builtin : tool ∈ Tool.builtin) {params : Arguments}
        (handsIn : tool.HandsIn params code) : call tool.name params = .ok (.ofReport (tool.run params).report) :=
      callTool_of_handsIn (found builtin) builtin handsIn short
    refine ⟨?_, ?_, ?_, ?_⟩
    · intro params handsIn
      obtain ⟨p, packed, agrees⟩ := packCode_agrees short handsIn
      exact ⟨p, _, packed, told .packCode (by simp [Tool.builtin]) handsIn, agrees⟩
    · intro params handsIn
      obtain ⟨u, unpacked, agrees⟩ := unpackCode_agrees short handsIn
      exact ⟨u, _, unpacked, told .unpackCode (by simp [Tool.builtin]) handsIn, agrees⟩
    · intro compact params measures
      exact ⟨_, told .codeSize (by simp [Tool.builtin]) measures.toHandsIn,
        measureCode_agrees short measures, fun small => exists_measureCode short small compact⟩
    · intro flag depth params requests
      obtain ⟨f, formatted, agrees⟩ := formatCode_agrees short requests (State.after here)
      exact ⟨f, _, formatted, told .formatCode (by simp [Tool.builtin])
        requests.handsIn, agrees⟩

example :
    (formatCode {} {} { code := "f(a,b),[c" }).toOption.bind FormatReply.error = some "unbalanced array" ∧
    (callTool {} .standard { name := "format_code", params := codeArguments "f(a,b),[c" }).toOption.bind CallReply.error =
      some "Format failed: unbalanced array!" := by
  decide +kernel

end Bytebeat.Service
