import Bytebeat.Service.Handlers
import Bytebeat.Service.Origin

/-!
What a service leaves to the framework that it runs in: which route a request is for and what its body holds, whether
that is a request of the right kind, how replies are written, and what they tell other origins.
-/

namespace Bytebeat.Service

inductive Route where
  | format
  | pack
  | unpack
  | measure
  | call
  | list
  | health
  deriving DecidableEq

namespace Route

def path : Route → Text
  | format => "/code/format"
  | pack => "/code/pack"
  | unpack => "/code/unpack"
  | measure => "/code/size"
  | call => "/tools/call"
  | list => "/tools/list"
  | health => "/health"

def method : Route → Text
  | list => "GET"
  | health => "GET"
  | _ => "POST"

def all : List Route := [format, pack, unpack, measure, call, list, health]

def ofPath? (path : Text) : Option Route := all.find? fun r => path = r.path || path = r.path ++ "\n"

end Route

structure Framework where
  /-- the route that a request is for and what its body holds, or the reply where no route is called -/
  dispatch : Request → Except Reply (Route × Payload)
  checkCode : Payload → Except Refusal CodeRequest
  checkFormat : Payload → Except Refusal FormatRequest
  checkSize : Payload → Except Refusal SizeRequest
  checkCall : Payload → Except Refusal CallRequest
  /-- the reply on what a handler returns or refuses -/
  write : Except Refusal Value → Reply
  /-- the reply with what its request's origin is told -/
  finish : Request → Reply → Reply

/-! ## The framework of the service -/

def withoutSlashes (path : Text) : Text := (path.reverse.dropWhile fun c => c = ('/' : CodePoint)).reverse

def missingReply (path : Text) : Reply :=
  if path.getLast? = some ('/' : CodePoint) && (Route.ofPath? (withoutSlashes path)).isSome then
    { status := 307, content := .plain [] }
  else .detail 404 "Not Found"

def replyOf : Except Refusal Value → Reply
  | .ok v => (Reply.ok v).written
  | .error refusal => refusal.reply.written

namespace Request

def route (r : Request) : Except Reply (Route × Payload) :=
  match Route.ofPath? r.path with
  | none => .error (missingReply r.path)
  | some route =>
    if r.method ≠ route.method then .error { Reply.detail 405 "Method Not Allowed" with allow := some route.method }
    else if r.method ≠ "POST" then .ok (route, .absent)
    else (r.payload.map fun payload => (route, payload)).mapError fun refusal => replyOf (.error refusal)

def dispatch (r : Request) : Except Reply (Route × Payload) :=
  match r.preflight? with
  | some preflight => .error preflight.reply
  | none => r.route.mapError fun reply => reply.forOrigin (r.header? "origin")

end Request

def Framework.standard : Framework where
  dispatch := Request.dispatch
  checkCode payload := payload.check CodeRequest.ofValue
  checkFormat payload := payload.check FormatRequest.ofValue
  checkSize payload := payload.check SizeRequest.ofValue
  checkCall payload := payload.check CallRequest.ofValue
  write := replyOf
  finish r reply := reply.forOrigin (r.header? "origin")

end Bytebeat.Service
