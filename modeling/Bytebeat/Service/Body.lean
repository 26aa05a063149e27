import Bytebeat.Json.Reader
import Bytebeat.Service.Lenient
import Bytebeat.Text.Utf8
import Bytebeat.Tool.Basic

namespace Bytebeat.Service

def issue {α : Type} (kind : IssueKind) (location : Location) (input : Value) : Checked α :=
  .error [⟨kind, location, input⟩]

def checkText (location : Location) : Value → Checked Text
  | .text t => .ok t
  | other => issue .textType location other

def checkBool (location : Location) (v : Value) : Checked Bool :=
  let checked : Except IssueKind Bool :=
    match v with
    | .bool b => .ok b
    | .int n => flagOfInt n
    | .float literal => flagOfLiteral literal
    | .text t => (flag? t).elim (.error .boolParsing) .ok
    | _ => .error .boolType
  checked.mapError fun kind => [⟨kind, location, v⟩]

def checkInt (location : Location) (v : Value) : Checked Int :=
  let checked : Except IssueKind Int :=
    match v with
    | .bool b => .ok (if b then 1 else 0)
    | .int n => .ok n
    | .float literal => intOfLiteral literal
    | .text t => intOfText t
    | _ => .error .intType
  checked.mapError fun kind => [⟨kind, location, v⟩]

def checkDepth (location : Location) (v : Value) : Checked Nat := do
  let n ← checkInt location v
  if n < 0 then issue .negative location v else .ok n.toNat

def checkArgument (name : Text) (v : Value) : Checked Value :=
  let location (branch : Text) : Location := [.text "body", .text "params", .text name.lossy, .text branch]
  let refuse (kind : IssueKind) : Checked Value := .error
    [⟨.textType, location "str", v⟩, ⟨kind, location "int", v⟩, ⟨.boolType, location "bool", v⟩]
  match v with
  | .null | .text _ | .int _ | .bool _ => .ok v
  | .float literal =>
    match intOfLiteral literal with
    | .ok n => .ok (.int n)
    | .error kind => refuse kind
  | .list _ | .dict _ => refuse .intType

/-! ## Fields -/

def fieldLocation (name : Text) : Location := [.text "body", .text name]

def required {α : Type} (fields : Fields) (name : Text) (check : Location → Value → Checked α) : Checked α :=
  match fields.lookup name with
  | some v => check (fieldLocation name) v
  | none => issue .missing (fieldLocation name) (.dict fields)

def optional {α : Type} (fields : Fields) (name : Text) (default : α) (check : Location → Value → Checked α) :
    Checked α :=
  match fields.lookup name with
  | some v => check (fieldLocation name) v
  | none => .ok default

def nullable {α : Type} (check : Location → Value → Checked α) (location : Location) : Value → Checked (Option α)
  | .null => .ok none
  | v => (check location v).map some

def checkObject : Value → Checked Fields
  | .dict fields => .ok fields
  | other => issue .objectType [.text "body"] other

/-! ## Kinds of request -/

structure CodeRequest where
  code : Text

structure FormatRequest where
  code : Text
  considerParens : Option Bool := none
  maxParenDepth : Option Nat := none

structure SizeRequest where
  code : Text
  compact : Bool := false

structure CallRequest where
  name : Text
  params : Arguments := .empty

def CodeRequest.ofValue (v : Value) : Checked CodeRequest := do
  let fields ← checkObject v
  let code ← required fields "code" checkText
  return { code }

def FormatRequest.ofValue (v : Value) : Checked FormatRequest := do
  let fields ← checkObject v
  let (code, considerParens, maxParenDepth) ← (required fields "code" checkText).both
    ((optional fields "consider_parens" none (nullable checkBool)).both
      (optional fields "max_paren_depth" none (nullable checkDepth)))
  return { code, considerParens, maxParenDepth }

def SizeRequest.ofValue (v : Value) : Checked SizeRequest := do
  let fields ← checkObject v
  let (code, compact) ← (required fields "code" checkText).both (optional fields "compact" false checkBool)
  return { code, compact }

def checkArguments (location : Location) : Value → Checked Arguments
  | .dict entries => (Checked.all checkArgument entries).map Table.ofList
  | other => issue .dictType location other

def CallRequest.ofValue (v : Value) : Checked CallRequest := do
  let fields ← checkObject v
  let (name, params) ← (required fields "name" checkText).both (optional fields "params" .empty checkArguments)
  return { name, params }

end Bytebeat.Service
