import Bytebeat.Proofs.Service.Environment
import Bytebeat.Proofs.Service.Framework
import Bytebeat.Proofs.Service.Run

/-!
When a service loads its settings.

Between requests that need the settings, the environment and the file that is loaded into it change in any way. Until a
request finds settings spelled there, requests fail and nothing is kept (`handle_of_error`). From that request on the
settings stay what they were then (`Loaded.run`). Both make up `settings_load_once`.
-/

namespace Bytebeat.Service

/-- A request that needs the settings: it is posted to a route that reads a body, and the body can be read. -/
structure SettledRequest extends Request where
  route : Route
  content : Payload
  posted : method = "POST"
  found : Route.ofPath? path = some route
  reads : route.method = "POST"
  read : toRequest.payload = .ok content

theorem SettledRequest.exists_of_posts {r : Request} {route : Route} {code : Text} (posts : PostsCode r route code)
    (reads : route.method = "POST") : ∃ settled : SettledRequest, settled.toRequest = r := by
  obtain ⟨fields, read, -⟩ := Request.payload_of_code? posts.code
  exact ⟨{ r with route, content := _, posted := posts.method, found := posts.path ▸ Route.ofPath?_path route, reads, read },
    rfl⟩

instance : Nonempty SettledRequest :=
  have posts : PostsCode (.ofCode .pack "t") .pack "t" := ⟨rfl, rfl, by decide +kernel⟩
  (SettledRequest.exists_of_posts posts rfl).nonempty

inductive LoadStep where
  | setVariable (v : Variable) (value : Option Text)
  | setFile (file : Environment)
  | request (r : SettledRequest)

def LoadStep.event : LoadStep → Event
  | setVariable v value => .setVariable v value
  | setFile file => .setFile file
  | request r => .request r.toRequest

/-- The environment and the file after some steps: those that the first request with settings met, or else the last. -/
def governing (source : SettingsSource) : List LoadStep → SettingsSource
  | [] => source
  | .setVariable v value :: rest => governing { source with environment := source.environment.set v value } rest
  | .setFile file :: rest => governing { source with file } rest
  | .request _ :: rest =>
    match source.read with
    | .ok _ => source
    | .error _ => governing source.load rest

namespace State

def unloaded (source : SettingsSource) : State := { fresh with toSettingsSource := source }

structure Loaded (settings : Settings) (s : State) : Prop where
  override : s.override = none
  kept : ∃ stamp, s.settings = some ⟨settings, stamp⟩

variable {f : Framework} {s next : State} {settings : Settings} {source : SettingsSource}

/-! ## One request -/

theorem exists_handler (f : Framework) (r : SettledRequest) :
    ∃ handler, ∀ s : State, s.callRoute f r.content r.route = s.withSettings f handler := by
  have reads := r.reads
  cases route : r.route with
  | format => exact ⟨_, fun _ => rfl⟩
  | pack => exact ⟨_, fun _ => rfl⟩
  | unpack => exact ⟨_, fun _ => rfl⟩
  | measure => exact ⟨_, fun _ => rfl⟩
  | call => exact ⟨_, fun _ => rfl⟩
  | list => exact absurd (route ▸ reads) (by decide)
  | health => exact absurd (route ▸ reads) (by decide)

theorem handle_of_error (lawful : f.Lawful) {e : SettingsError} (failed : s.requestSettings = .error e)
    (r : SettledRequest) : s.handle r.toRequest f = (s.load, .internalError) := by
  obtain ⟨handler, handled⟩ := exists_handler f r
  rw [handle_of_payload lawful s r.posted r.found r.reads r.read, handled, withSettings_of_error failed, lawful.broken]

theorem handle_of_resolved (lawful : f.Lawful) (resolved : s.requestSettings = .ok (settings, next))
    (again : next.requestSettings = .ok (settings, next)) (r : SettledRequest) :
    s.handle r.toRequest f = next.handle r.toRequest f := by
  obtain ⟨handler, handled⟩ := exists_handler f r
  rw [handle_of_payload lawful s r.posted r.found r.reads r.read,
    handle_of_payload lawful next r.posted r.found r.reads r.read, handled, handled, withSettings_of_ok resolved,
    withSettings_of_ok again]

theorem requestSettings_unloaded (source : SettingsSource) : (unloaded source).requestSettings =
    source.read.map fun settings =>
      (settings, { unloaded source.load with settings := some ⟨settings, 0⟩, stamps := 1 }) := by
  cases loads : source.read with
  | error e => simp [requestSettings, getSettings, unloaded, fresh, loads, Except.map]
  | ok settings => simp [requestSettings, getSettings, unloaded, fresh, load, loads, Except.map]

/-! ## Settings that are kept -/

theorem Loaded.requestSettings (loaded : s.Loaded settings) : s.requestSettings = .ok (settings, s) := by
  obtain ⟨stamp, kept⟩ := loaded.kept
  rw [State.requestSettings, loaded.override, getSettings_of_settings kept]
  rfl

theorem lasting_loaded (settings : Settings) : Lasting (Loaded settings) := by
  refine ⟨fun s loaded => ⟨loaded.override, loaded.kept⟩, ?_, ?_, ?_⟩
  · intro s next used loaded resolved
    rw [loaded.requestSettings] at resolved
    cases resolved
    exact loaded
  · intro s used loaded
    obtain ⟨formatter, stamps, same⟩ := exists_of_getFormatter s used
    rw [same]
    exact ⟨loaded.override, loaded.kept⟩
  · intro s loaded
    obtain ⟨registry, stamps, same⟩ := exists_of_getRegistry s
    rw [same]
    exact ⟨loaded.override, loaded.kept⟩

theorem Loaded.run (loaded : s.Loaded settings) (steps : List LoadStep) :
    ((steps.map LoadStep.event).foldl perform s).Loaded settings := by
  induction steps generalizing s with
  | nil => exact loaded
  | cons step steps ih =>
      cases step with
      | setVariable v value => exact ih ⟨loaded.override, loaded.kept⟩
      | setFile file => exact ih ⟨loaded.override, loaded.kept⟩
      | request r => exact ih ((lasting_loaded settings).handle r.toRequest loaded)

theorem loaded_handle_unloaded (lawful : f.Lawful) (loads : source.read = .ok settings) (r : SettledRequest) :
    ((unloaded source).handle r.toRequest f).1.Loaded settings := by
  have loaded : ({ unloaded source.load with settings := some ⟨settings, 0⟩, stamps := 1 } : State).Loaded settings :=
    ⟨rfl, 0, rfl⟩
  have resolved := requestSettings_unloaded source
  rw [loads] at resolved
  rw [handle_of_resolved lawful resolved loaded.requestSettings r]
  exact (lasting_loaded settings).handle r.toRequest loaded

/-! ## Runs -/

theorem unloaded_or_loaded (source : SettingsSource) (steps : List LoadStep) :
    (steps.map LoadStep.event).foldl perform (unloaded source) = unloaded (governing source steps) ∨
    ∃ settings, (governing source steps).read = .ok settings ∧
      ((steps.map LoadStep.event).foldl perform (unloaded source)).Loaded settings := by
  induction steps generalizing source with
  | nil => exact .inl rfl
  | cons step steps ih =>
      cases step with
      | setVariable v value => exact ih { source with environment := source.environment.set v value }
      | setFile file => exact ih { source with file }
      | request r =>
          cases loads : source.read with
          | ok settings =>
              have governs : governing source (.request r :: steps) = source := by
                rw [governing, loads]
              rw [governs]
              exact .inr ⟨settings, loads, (loaded_handle_unloaded lawful_standard loads r).run steps⟩
          | error e =>
              have goesOn : governing source (.request r :: steps) = governing source.load steps := by
                rw [governing, loads]
              have failed : (unloaded source).requestSettings = .error e := by
                rw [requestSettings_unloaded, loads]
                rfl
              have left : (unloaded source).perform (.request r.toRequest) = unloaded source.load :=
                congrArg Prod.fst (handle_of_error lawful_standard failed r)
              rw [goesOn, List.map_cons, List.foldl_cons, LoadStep.event, left]
              exact ih source.load

/-- Requests get these settings, and the replies of a service that is given them. -/
structure Uses (s : State) (settings : Settings) : Prop where
  resolved : ∃ next, s.requestSettings = .ok (settings, next)
  replies : ∀ r, (s.handle r).2 = ((fresh.setOverride (some settings)).handle r).2

theorem uses_of_resolved (keeps : s.KeepsStandard) (resolved : s.requestSettings = .ok (settings, next)) :
    s.Uses settings := by
  have given : (fresh.setOverride (some settings)).requestSettings =
      .ok (settings, fresh.setOverride (some settings)) := rfl
  have kept : (fresh.setOverride (some settings)).KeepsStandard := keepsStandard_fresh
  exact ⟨⟨next, resolved⟩, fun r => reply_congr keeps kept resolved given r⟩

theorem after_load (steps : List LoadStep) :
    after (steps.map LoadStep.event) = unloaded (governing {} steps) ∨
    ∃ settings, (governing {} steps).read = .ok settings ∧ (after (steps.map LoadStep.event)).Loaded settings :=
  unloaded_or_loaded {} steps

theorem after_of_error {before : List LoadStep} {e : SettingsError} (fails : (governing {} before).read = .error e) :
    after (before.map LoadStep.event) = unloaded (governing {} before) ∧
    (after (before.map LoadStep.event)).requestSettings = .error e := by
  rcases after_load before with same | ⟨settings, loads, -⟩
  · refine ⟨same, ?_⟩
    rw [same, requestSettings_unloaded, fails]
    rfl
  · rw [fails] at loads
    cases loads

theorem after_of_ok {before : List LoadStep} (loads : (governing {} before).read = .ok settings) (r : SettledRequest) :
    (∃ next, (after (before.map LoadStep.event)).requestSettings = .ok (settings, next)) ∧
    ((after (before.map LoadStep.event)).handle r.toRequest).1.Loaded settings := by
  rcases after_load before with same | ⟨used, loads', loaded⟩
  · rw [same, requestSettings_unloaded, loads]
    exact ⟨⟨_, rfl⟩, loaded_handle_unloaded lawful_standard loads r⟩
  · cases loads.symm.trans loads'
    exact ⟨⟨_, loaded.requestSettings⟩, (lasting_loaded settings).handle r.toRequest loaded⟩

/-- A request fails and leaves nothing behind, or it loads settings that it and all later ones use. -/
theorem settings_load_once (before : List LoadStep) (r : SettledRequest) :
    let s := after (before.map LoadStep.event)
    let source := governing {} before
    (∀ e, source.read = .error e →
      s = unloaded source ∧ s.requestSettings = .error e ∧
      s.handle r.toRequest = (unloaded source.load, .internalError)) ∧
    ∀ settings, source.read = .ok settings →
      s.Uses settings ∧
      (∀ later, (after ((before ++ LoadStep.request r :: later).map LoadStep.event)).Uses settings) ∧
      source.load.environment.Spells settings ∧
      0 ≤ (settings.formatConfig.maxParenDepth : Int) ∧ 1 ≤ settings.maxCodeLength := by
  intro s source
  constructor
  · intro e fails
    obtain ⟨same, failed⟩ := after_of_error fails
    refine ⟨same, failed, ?_⟩
    rw [handle_of_error lawful_standard failed r, same]
    rfl
  · intro settings loads
    obtain ⟨⟨next, resolved⟩, loaded⟩ := after_of_ok loads r
    refine ⟨uses_of_resolved (keepsStandard_after _) resolved, ?_, ofEnvironment_eq_ok_iff.mp loads,
      Int.natCast_nonneg _, settings.positive⟩
    intro later
    have goesOn : after ((before ++ LoadStep.request r :: later).map LoadStep.event) =
        (later.map LoadStep.event).foldl perform (s.handle r.toRequest).1 := by
      rw [List.map_append, after, List.foldl_append]
      rfl
    exact uses_of_resolved (keepsStandard_after _) (goesOn ▸ loaded.run later).requestSettings

example (r : SettledRequest) :
    (governing {} [.setVariable .maxParenDepth (some "-1"), .request r, .setVariable .maxParenDepth (some " 2 "),
      .request r, .setVariable .maxParenDepth none, .request r]).environment .maxParenDepth = some " 2 " := by
  rfl

end State
end Bytebeat.Service
