import Bytebeat.Json.Encoding
import Bytebeat.Json.Float
import Bytebeat.Service.Body

namespace Bytebeat.Service

structure Request where
  method : Text := "POST"
  path : Text
  headers : List (Text × List UInt8) := []
  body : List UInt8 := []

def Request.header? (r : Request) (name : Text) : Option Text :=
  (r.headers.find? fun header => header.1.lower = name).map fun header => Text.ofBytes header.2

inductive Refusal where
  | unreadable
  | invalid (issues : List Issue)
  | unknownTool (name : Text) (known : List Text)
  | tooLong (length limit : Nat)
  | broken

inductive Content where
  | json (v : Value)
  | plain (t : Text)

structure Reply where
  status : Nat
  content : Content
  allow : Option Text := none
  access : List (Text × Text) := []

namespace Reply

def ok (v : Value) : Reply := { status := 200, content := .json v }

def detail (status : Nat) (message : Text) : Reply := { status, content := .json (.dict [("detail", .text message)]) }

def internalError : Reply := { status := 500, content := .plain "Internal Server Error" }

def isWritable (r : Reply) : Bool :=
  match r.content with
  | .json v => Json.isWritable v
  | .plain _ => true

def written (r : Reply) : Reply := if r.isWritable then r else internalError

end Reply

namespace Refusal

def message : Refusal → Text
  | unreadable => "There was an error parsing the body"
  | invalid _ => []
  | unknownTool name known =>
    "Tool '" ++ name ++ "' not found. Available tools: " ++ (Value.list (known.map .text)).display
  | tooLong length limit =>
    "code is " ++ Text.ofNat length ++ " characters; the limit is " ++ Text.ofNat limit
  | broken => "Internal Server Error"

def status : Refusal → Nat
  | unreadable => 400
  | invalid _ => 422
  | unknownTool _ _ => 404
  | tooLong _ _ => 413
  | broken => 500

def reply (r : Refusal) : Reply :=
  match r with
  | invalid issues => { status := r.status, content := .json (.dict [("detail", .list (issues.map Issue.describe))]) }
  | broken => .internalError
  | _ => .detail r.status r.message

end Refusal

inductive Payload where
  | absent
  | json (v : Value)
  | bytes (b : List UInt8)

def mediaType? (contentType : Text) : Option (Text × Text) :=
  let full : Text := Text.lower (Text.trim (contentType.takeWhile fun c => c ≠ (';' : CodePoint)))
  let main := full.takeWhile fun c => c ≠ ('/' : CodePoint)
  if full.occurrences '/' = 1 then some (main, full.drop (main.length + 1)) else none

def isJson (contentType : Text) : Bool :=
  match mediaType? contentType with
  | some (main, sub) => main = "application" && (sub = "json" || (Text.dropEnd? "+json" sub).isSome)
  | none => false

namespace Request

def readJson (r : Request) : Except Refusal Value :=
  match Json.decode? r.body with
  | none => .error .unreadable
  | some t =>
    match Json.read t with
    | .ok v => .ok v
    | .error (.malformed position) =>
      .error (.invalid [⟨.jsonInvalid, [.text "body", .int position], .dict []⟩])
    | .error .tooManyDigits => .error .unreadable
    | .error .tooDeep => .error .unreadable

def payload (r : Request) : Except Refusal Payload :=
  if r.body.isEmpty then .ok .absent
  else if (r.header? "content-type").any isJson then r.readJson.map .json
  else .ok (.bytes r.body)

end Request

def Payload.check {α : Type} (p : Payload) (ofValue : Value → Checked α) : Except Refusal α :=
  match p with
  | .absent => .error (.invalid [⟨.missing, [.text "body"], .null⟩])
  | .json v => (ofValue v).mapError .invalid
  | .bytes b =>
    match Text.ofUtf8? b with
    | some t => .error (.invalid [⟨.objectType, [.text "body"], .text t⟩])
    | none => .error .broken

end Bytebeat.Service
