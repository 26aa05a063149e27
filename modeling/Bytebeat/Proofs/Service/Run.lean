import Bytebeat.Service.Handle

/-!
What happens to a service while it runs, and what of it a reply can show.

The formatter that a request meets has the config of its settings, and the registry is that of the library's tools,
whatever happened before (`formatter_getFormatter`, `getRegistry_after`). So services that resolve the same settings
give the same reply (`reply_congr`).
-/

namespace Bytebeat.Service

inductive Event where
  | setVariable (v : Variable) (value : Option Text)
  | setFile (file : Environment)
  | setOverride (settings : Option Settings)
  | reset
  | formatter (settings : Settings)
  | request (r : Request)

namespace State

def perform (s : State) : Event → State
  | .setVariable v value => s.setVariable v value
  | .setFile file => s.setFile file
  | .setOverride settings => s.setOverride settings
  | .reset => s.reset
  | .formatter settings => (s.getFormatter settings).2
  | .request r => (s.handle r).1

def after (events : List Event) : State := events.foldl perform fresh

/-! ## The formatter -/

theorem formatter_getFormatter (s : State) (settings : Settings) :
    (s.getFormatter settings).1.value = { config := settings.formatConfig } :=
  congrArg Layout.Formatter.mk (config_getFormatter s settings)

theorem exists_of_getFormatter (s : State) (settings : Settings) :
    ∃ formatter stamps, (s.getFormatter settings).2 = { s with formatter, stamps } := by
  unfold getFormatter
  repeat' split
  · exact ⟨s.formatter, s.stamps, rfl⟩
  · exact ⟨_, _, rfl⟩
  · exact ⟨_, _, rfl⟩

/-! ## The settings -/

theorem exists_of_requestSettings {s next : State} {used : Settings} (resolved : s.requestSettings = .ok (used, next)) :
    ∃ environment settings stamps, next = { s with environment, settings, stamps } := by
  unfold requestSettings at resolved
  split at resolved
  · cases resolved
    exact ⟨s.environment, s.settings, s.stamps, rfl⟩
  · unfold getSettings at resolved
    repeat' split at resolved
    all_goals cases resolved
    · exact ⟨s.environment, s.settings, s.stamps, rfl⟩
    · exact ⟨_, _, _, rfl⟩

theorem exists_of_getRegistry (s : State) :
    ∃ registry stamps, s.getRegistry.2 = { s with registry, stamps } := by
  unfold getRegistry
  split
  · exact ⟨s.registry, s.stamps, rfl⟩
  · exact ⟨_, _, rfl⟩

/-! ## What a request leaves behind -/

/-- A property that whatever a request makes the service keep leaves as it is. -/
structure Lasting (P : State → Prop) : Prop where
  load : ∀ s, P s → P s.load
  settings : ∀ s next used, P s → s.requestSettings = .ok (used, next) → P next
  formatter : ∀ s settings, P s → P (s.getFormatter settings).2
  registry : ∀ s, P s → P s.getRegistry.2

variable {s : State} {P : State → Prop} {f : Framework}

theorem Lasting.withSettings (lasting : Lasting P) {handle : State → Settings → State × Reply}
    (step : ∀ next settings, P next → P (handle next settings).1) (holds : P s) : P (s.withSettings f handle).1 := by
  unfold State.withSettings
  cases resolved : s.requestSettings with
  | error e => exact lasting.load s holds
  | ok result => exact step _ _ (lasting.settings s _ _ holds resolved)

theorem Lasting.callRoute (lasting : Lasting P) (payload : Payload) (route : Route) (holds : P s) :
    P (s.callRoute f payload route).1 := by
  cases route with
  | format => exact lasting.withSettings (fun next settings => lasting.formatter next settings) holds
  | pack => exact lasting.withSettings (fun _ _ => id) holds
  | unpack => exact lasting.withSettings (fun _ _ => id) holds
  | measure => exact lasting.withSettings (fun _ _ => id) holds
  | call =>
      refine lasting.withSettings ?_ holds
      intro next settings
      cases f.checkCall payload with
      | error refusal => exact id
      | ok request => exact lasting.registry next
  | list => exact lasting.registry s holds
  | health => exact holds

theorem Lasting.handle (lasting : Lasting P) (r : Request) (holds : P s) : P (s.handle r f).1 := by
  unfold State.handle
  cases f.dispatch r with
  | error reply => exact holds
  | ok called => exact lasting.callRoute called.2 called.1 holds

/-! ## The registry -/

def KeepsStandard (s : State) : Prop := ∀ kept, s.registry = some kept → kept.value = .standard

theorem KeepsStandard.value_getRegistry (keeps : s.KeepsStandard) : s.getRegistry.1.value = .standard := by
  unfold getRegistry
  split
  · rename_i kept held
    exact keeps kept held
  · rfl

theorem KeepsStandard.getRegistry (keeps : s.KeepsStandard) : s.getRegistry.2.KeepsStandard := by
  unfold State.getRegistry
  split
  · exact keeps
  · rintro kept ⟨⟩
    rfl

theorem KeepsStandard.getFormatter (keeps : s.KeepsStandard) (settings : Settings) :
    (s.getFormatter settings).2.KeepsStandard := by
  obtain ⟨formatter, stamps, same⟩ := exists_of_getFormatter s settings
  rw [same]
  exact keeps

theorem KeepsStandard.requestSettings {next : State} {used : Settings} (keeps : s.KeepsStandard)
    (resolved : s.requestSettings = .ok (used, next)) : next.KeepsStandard := by
  obtain ⟨environment, settings, stamps, rfl⟩ := exists_of_requestSettings resolved
  exact keeps

theorem lasting_keepsStandard : Lasting KeepsStandard :=
  ⟨fun _ => id, fun _ _ _ keeps => keeps.requestSettings, fun _ settings keeps => keeps.getFormatter settings,
    fun _ keeps => keeps.getRegistry⟩

theorem KeepsStandard.perform (keeps : s.KeepsStandard) (event : Event) : (s.perform event).KeepsStandard := by
  cases event with
  | setVariable v value => exact keeps
  | setFile file => exact keeps
  | setOverride settings => exact keeps
  | reset => exact keeps
  | formatter settings => exact keeps.getFormatter settings
  | request r => exact lasting_keepsStandard.handle r keeps

theorem KeepsStandard.run (keeps : s.KeepsStandard) (events : List Event) :
    (events.foldl State.perform s).KeepsStandard := by
  induction events generalizing s with
  | nil => exact keeps
  | cons event events ih => exact ih (keeps.perform event)

theorem keepsStandard_fresh : fresh.KeepsStandard := nofun

theorem keepsStandard_after (events : List Event) : (after events).KeepsStandard := keepsStandard_fresh.run events

theorem getRegistry_after (events : List Event) : (after events).getRegistry.1.value = .standard :=
  (keepsStandard_after events).value_getRegistry

/-! ## Replies -/

section
variable {t next next' : State} {settings : Settings}

theorem withSettings_congr (resolved : s.requestSettings = .ok (settings, next))
    (resolved' : t.requestSettings = .ok (settings, next')) {handle : State → Settings → State × Reply}
    (same : (handle next settings).2 = (handle next' settings).2) :
    (s.withSettings f handle).2 = (t.withSettings f handle).2 := by
  rw [withSettings, withSettings, resolved, resolved']
  exact same

theorem callRoute_congr (keeps : s.KeepsStandard) (keeps' : t.KeepsStandard)
    (resolved : s.requestSettings = .ok (settings, next)) (resolved' : t.requestSettings = .ok (settings, next'))
    (payload : Payload) (route : Route) : (s.callRoute f payload route).2 = (t.callRoute f payload route).2 := by
  cases route with
  | format =>
      let answer (formatter : Layout.Formatter) : Reply :=
        f.write ((f.checkFormat payload >>= formatCode settings formatter).map FormatReply.toValue)
      have same : (next.getFormatter settings).1.value = (next'.getFormatter settings).1.value := by
        rw [formatter_getFormatter, formatter_getFormatter]
      exact withSettings_congr resolved resolved' (congrArg answer same)
  | pack => exact withSettings_congr resolved resolved' rfl
  | unpack => exact withSettings_congr resolved resolved' rfl
  | measure => exact withSettings_congr resolved resolved' rfl
  | call =>
      have same : next.getRegistry.1.value = next'.getRegistry.1.value := by
        rw [(keeps.requestSettings resolved).value_getRegistry, (keeps'.requestSettings resolved').value_getRegistry]
      apply withSettings_congr resolved resolved'
      cases f.checkCall payload with
      | error refusal => rfl
      | ok request =>
          exact congrArg (fun tools => f.write ((callTool settings tools request).map CallReply.toValue)) same
  | list =>
      have same : s.getRegistry.1.value = t.getRegistry.1.value := by
        rw [keeps.value_getRegistry, keeps'.value_getRegistry]
      exact congrArg (fun tools : Registry => f.write (.ok (.list tools.describe))) same
  | health => rfl

theorem reply_congr (keeps : s.KeepsStandard) (keeps' : t.KeepsStandard)
    (resolved : s.requestSettings = .ok (settings, next)) (resolved' : t.requestSettings = .ok (settings, next'))
    (r : Request) : (s.handle r f).2 = (t.handle r f).2 := by
  unfold handle
  cases f.dispatch r with
  | error reply => rfl
  | ok called => exact congrArg (f.finish r) (callRoute_congr keeps keeps' resolved resolved' called.2 called.1)

end

end State
end Bytebeat.Service
