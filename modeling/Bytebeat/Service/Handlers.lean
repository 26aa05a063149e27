import Bytebeat.Service.Request
import Bytebeat.Service.Settings
import Bytebeat.Tool.Registry

namespace Bytebeat.Service

def checkLength (settings : Settings) (code : Text) : Except Refusal Unit :=
  if settings.maxCodeLength < code.length then .error (.tooLong code.length settings.maxCodeLength) else .ok ()

def orNull (t : Option Text) : Value := t.elim .null .text

/-! ## Code -/

structure FormatReply where
  ok : Bool
  code : Option Text
  error : Option Text
  deriving DecidableEq

def FormatReply.toValue (r : FormatReply) : Value :=
  .dict [("ok", .bool r.ok), ("code", orNull r.code), ("error", orNull r.error)]

def FormatRequest.config? (r : FormatRequest) (default : Layout.Config) : Option Layout.Config :=
  if r.considerParens.isNone && r.maxParenDepth.isNone then none
  else
    some { considerParens := r.considerParens.getD default.considerParens
           maxParenDepth := r.maxParenDepth.getD default.maxParenDepth }

def formatCode (settings : Settings) (formatter : Layout.Formatter) (r : FormatRequest) :
    Except Refusal FormatReply := do
  checkLength settings r.code
  let outcome := formatter.format r.code (r.config? formatter.config)
  return { ok := outcome.toBool, code := outcome.text?, error := outcome.reason? }

structure PackReply where
  ok : Bool
  code : Option Text := none
  error : Option Text := none
  sourceSize : Option Text := none
  packedSize : Option Text := none
  deriving DecidableEq

def PackReply.toValue (r : PackReply) : Value :=
  .dict [("ok", .bool r.ok), ("code", orNull r.code), ("error", orNull r.error),
    ("original_size", orNull r.sourceSize), ("packed_size", orNull r.packedSize)]

def codeArguments (code : Text) : Arguments := Table.empty.insert "code" (.text code)

def answered (called : Except CallError Run) : Except Refusal Report :=
  match called.toOption.bind Run.report? with
  | some report => .ok report
  | none => .error .broken

def textField (report : Report) (name : Text) : Except Refusal Text :=
  match report.field? name with
  | some (.text t) => .ok t
  | _ => .error .broken

def packCode (settings : Settings) (r : CodeRequest) : Except Refusal PackReply := do
  checkLength settings r.code
  let report ← answered (Tool.packCode.call (codeArguments r.code))
  if report.succeeded then
    let code ← textField report "code"
    let sourceSize ← textField report "original_size"
    let packedSize ← textField report "packed_size"
    return { ok := true, code := some code, sourceSize := some sourceSize, packedSize := some packedSize }
  else return { ok := false, error := report.error? }

structure UnpackReply where
  code : Text
  changed : Bool
  deriving DecidableEq

def UnpackReply.toValue (r : UnpackReply) : Value := .dict [("code", .text r.code), ("changed", .bool r.changed)]

def unpackCode (settings : Settings) (r : CodeRequest) : Except Refusal UnpackReply := do
  checkLength settings r.code
  let report ← answered (Tool.unpackCode.call (codeArguments r.code))
  let code ← textField report "code"
  match report.field? "changed" with
  | some (.bool changed) => return { code, changed }
  | _ => throw .broken

structure SizeReply where
  bytes : Int
  label : Text
  deriving DecidableEq

def SizeReply.toValue (r : SizeReply) : Value := .dict [("bytes", .int r.bytes), ("label", .text r.label)]

def measureCode (settings : Settings) (r : SizeRequest) : Except Refusal SizeReply := do
  checkLength settings r.code
  let report ← answered (Tool.codeSize.call ((codeArguments r.code).insert "compact" (.bool r.compact)))
  let label ← textField report "label"
  match report.field? "bytes" with
  | some (.int bytes) => return { bytes, label }
  | _ => throw .broken

/-! ## Tools by name -/

structure CallReply where
  ok : Bool
  data : Option Fields
  error : Option Text
  metadata : Option Fields

def CallReply.toValue (r : CallReply) : Value :=
  .dict [("ok", .bool r.ok), ("data", r.data.elim .null .dict), ("error", orNull r.error),
    ("metadata", r.metadata.elim .null .dict)]

def callTool (settings : Settings) (registry : Registry) (r : CallRequest) : Except Refusal CallReply := do
  let some tool := registry.get? r.name | throw (.unknownTool r.name registry.names)
  match r.params.get? "code" with
  | some (.text code) => checkLength settings code
  | _ => pure ()
  let report ← answered (tool.call r.params)
  return { ok := report.succeeded, data := report.data?, error := report.error?, metadata := report.metadata? }

end Bytebeat.Service
