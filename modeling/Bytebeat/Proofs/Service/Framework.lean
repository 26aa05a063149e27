import Bytebeat.Service.Handle

namespace Bytebeat.Service

namespace Reply

theorem status_forOrigin (reply : Reply) (origin : Option Text) : (reply.forOrigin origin).status = reply.status := by
  cases origin with
  | none => rfl
  | some origin =>
      rw [forOrigin]
      split <;> rfl

theorem content_forOrigin (reply : Reply) (origin : Option Text) : (reply.forOrigin origin).content = reply.content := by
  cases origin with
  | none => rfl
  | some origin =>
      rw [forOrigin]
      split <;> rfl

/-- A reply that goes well and holds a value. -/
def Tells (reply : Reply) (v : Value) : Prop := reply.status = 200 ∧ reply.content = .json v

theorem Tells.status_ne {reply : Reply} {v : Value} (tells : reply.Tells v) : reply.status ≠ 500 := by
  rw [tells.1]
  decide

end Reply

theorem Route.ofPath?_path (route : Route) : ofPath? route.path = some route := by
  cases route <;> decide +kernel

structure Framework.Lawful (f : Framework) : Prop where
  /-- A body that is posted to a route is read before anything else, and refused if it cannot be read. -/
  posted : ∀ (r : Request) (route : Route), r.method = "POST" → Route.ofPath? r.path = some route →
    route.method = "POST" → f.dispatch r = (r.payload.map fun payload => (route, payload)).mapError fun refusal =>
      f.finish r (f.write (.error refusal))
  /-- An object with a text for its code is a request with that code. -/
  code : ∀ (fields : Fields) (code : Text), fields.lookup ("code" : Text) = some (.text code) →
    f.checkCode (.json (.dict fields)) = .ok { code }
  written : ∀ v, Json.isWritable v = true → (f.write (.ok v)).Tells v
  unwritable : ∀ v, Json.isWritable v = false → (f.write (.ok v)).status = 500
  broken : ∀ r, f.finish r (f.write (.error .broken)) = .internalError
  status : ∀ r reply, (f.finish r reply).status = reply.status
  content : ∀ r reply, (f.finish r reply).content = reply.content

theorem Request.preflight?_of_post {r : Request} (post : r.method = "POST") : r.preflight? = none := by
  unfold preflight?
  split
  · rw [post, if_neg (by decide)]
  · rfl

theorem Request.dispatch_of_post {r : Request} {route : Route} (post : r.method = "POST")
    (found : Route.ofPath? r.path = some route) (reads : route.method = "POST") :
    r.dispatch = (r.payload.map fun payload => (route, payload)).mapError fun refusal =>
      (replyOf (.error refusal)).forOrigin (r.header? "origin") := by
  have routed : r.route = (r.payload.map fun payload => (route, payload)).mapError fun refusal =>
      replyOf (.error refusal) := by
    rw [Request.route, found]
    simp only [post, reads, ne_eq, not_true_eq_false, if_false]
  rw [dispatch, preflight?_of_post post]
  simp only [routed]
  cases r.payload <;> rfl

theorem CodeRequest.ofValue_eq {fields : Fields} {code : Text}
    (given : fields.lookup ("code" : Text) = some (.text code)) :
    ofValue (.dict fields) = .ok { code } := by
  have read : required fields "code" checkText = .ok code := by
    rw [required, given]
    rfl
  have steps : ofValue (.dict fields) = required fields "code" checkText >>= fun code => .ok { code } := rfl
  rw [steps, read]
  rfl

theorem lawful_standard : Framework.standard.Lawful where
  posted r route post found reads := Request.dispatch_of_post post found reads
  code fields code given := by
    show (CodeRequest.ofValue (.dict fields)).mapError Refusal.invalid = _
    rw [CodeRequest.ofValue_eq given]
    rfl
  written v writable := by
    have written : replyOf (.ok v) = .ok v := if_pos writable
    exact ⟨congrArg Reply.status written, congrArg Reply.content written⟩
  unwritable v broken := by
    have failed : replyOf (.ok v) = .internalError := if_neg (Bool.eq_false_iff.mp broken)
    exact congrArg Reply.status failed
  broken r := by
    show Reply.internalError.forOrigin (r.header? "origin") = .internalError
    cases r.header? "origin" <;> rfl
  status r reply := reply.status_forOrigin _
  content r reply := reply.content_forOrigin _

/-! ## From a request to its handler -/

variable {f : Framework} {s next : State} {settings : Settings} {r : Request} {route : Route} {payload : Payload}

theorem Framework.Lawful.tells (lawful : f.Lawful) {v : Value} (writable : Json.isWritable v = true) (r : Request) :
    (f.finish r (f.write (.ok v))).Tells v := by
  obtain ⟨status, content⟩ := lawful.written v writable
  exact ⟨(lawful.status r _).trans status, (lawful.content r _).trans content⟩

theorem Framework.Lawful.status_of_unwritable (lawful : f.Lawful) {v : Value} (broken : Json.isWritable v = false)
    (r : Request) : (f.finish r (f.write (.ok v))).status = 500 :=
  (lawful.status r _).trans (lawful.unwritable v broken)

namespace State

theorem handle_of_payload (lawful : f.Lawful) (s : State) (post : r.method = "POST")
    (found : Route.ofPath? r.path = some route) (reads : route.method = "POST") (read : r.payload = .ok payload) :
    s.handle r f = ((s.callRoute f payload route).1, f.finish r (s.callRoute f payload route).2) := by
  rw [handle, lawful.posted r route post found reads, read]
  rfl

theorem withSettings_of_ok (resolved : s.requestSettings = .ok (settings, next))
    (handle : State → Settings → State × Reply) : s.withSettings f handle = handle next settings := by
  rw [withSettings, resolved]

theorem withSettings_of_error {e : SettingsError} (failed : s.requestSettings = .error e)
    (handle : State → Settings → State × Reply) : s.withSettings f handle = (s.load, f.write (.error .broken)) := by
  rw [withSettings, failed]

end State

/-! ## Posted code -/

def Request.code? (r : Request) : Option Text :=
  match r.payload with
  | .ok (.json (.dict fields)) =>
    match fields.lookup ("code" : Text) with
    | some (.text code) => some code
    | _ => none
  | _ => none

structure PostsCode (r : Request) (route : Route) (code : Text) : Prop where
  method : r.method = "POST"
  path : r.path = route.path
  code : r.code? = some code

def Request.ofCode (route : Route) (code : Text) : Request where
  path := route.path
  headers := [("content-type", Text.utf8 "application/json")]
  body := Text.utf8 (("\x7b\"code\":\"" : Text) ++ code ++ ("\"\x7d" : Text))

theorem Request.payload_of_code? {code : Text} (posted : r.code? = some code) :
    ∃ fields : Fields, r.payload = .ok (.json (.dict fields)) ∧ fields.lookup ("code" : Text) = some (.text code) := by
  unfold code? at posted
  split at posted
  · rename_i fields read
    split at posted
    · rename_i given
      cases posted
      exact ⟨fields, read, given⟩
    · cases posted
  · cases posted

theorem Framework.Lawful.check_of_code? (lawful : f.Lawful) {code : Text} (posted : r.code? = some code) :
    ∃ payload, r.payload = .ok payload ∧ f.checkCode payload = .ok { code } := by
  obtain ⟨fields, read, given⟩ := Request.payload_of_code? posted
  exact ⟨_, read, lawful.code fields code given⟩

end Bytebeat.Service
