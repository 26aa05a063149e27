import Bytebeat.Service.Request

namespace Bytebeat.Service

def knownOrigins : List Text :=
  ["http://localhost:3000", "http://127.0.0.1:3000", "http://localhost:5173", "http://127.0.0.1:5173"]

def crossOriginMethods : List Text := ["DELETE", "GET", "HEAD", "OPTIONS", "PATCH", "POST", "PUT", "QUERY"]

def allowCredentials : Text × Text := ("allow-credentials", "true")

def allowOrigin (origin : Text) : List (Text × Text) :=
  if knownOrigins.contains origin then [("allow-origin", origin)] else []

def Reply.forOrigin (r : Reply) (origin : Option Text) : Reply :=
  match origin with
  | some origin => if r.status = 500 then r else { r with access := allowCredentials :: allowOrigin origin }
  | none => r

structure Preflight where
  origin : Text
  method : Text
  headers : Option Text := none
  privateNetwork : Bool := false

namespace Preflight

def faults (p : Preflight) : List Text :=
  let checks : List (Bool × Text) :=
    [(knownOrigins.contains p.origin, "origin"), (crossOriginMethods.contains p.method, "method"),
      (!p.privateNetwork, "private-network")]
  (checks.filter fun check => !check.1).map Prod.snd

def access (p : Preflight) : List (Text × Text) :=
  let always : List (Text × Text) :=
    [("allow-methods", Text.join ", " crossOriginMethods), ("max-age", "600"), allowCredentials]
  let granted : List (Text × Text) := p.headers.toList.map fun h => ("allow-headers", h)
  allowOrigin p.origin ++ always ++ granted

def reply (p : Preflight) : Reply :=
  match p.faults with
  | [] => { status := 200, content := .plain "OK", access := p.access }
  | faults => { status := 400, content := .plain ("Disallowed CORS " ++ Text.join ", " faults), access := p.access }

end Preflight

def Request.preflight? (r : Request) : Option Preflight :=
  match r.header? "origin", r.header? "access-control-request-method" with
  | some origin, some method =>
    if r.method = "OPTIONS" then
      some { origin, method, headers := r.header? "access-control-request-headers"
             privateNetwork := (r.header? "access-control-request-private-network").isSome }
    else none
  | _, _ => none

end Bytebeat.Service
