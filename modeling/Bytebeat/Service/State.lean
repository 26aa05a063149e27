import Bytebeat.Service.Handlers

/-!
The state of a running service: its environment, an override of the settings, and what it keeps between requests.

Settings are read once, from the environment after a file is loaded into it, and kept. A formatter is kept as long as
its config is the one asked for. The registry is built on first use and kept for good. What is kept carries a stamp,
so that one can tell whether it is still the same.
-/

namespace Bytebeat.Service

/-- A kept value; no two of one service have the same stamp. -/
structure Stamped (α : Type) where
  value : α
  stamp : Nat

structure State extends SettingsSource where
  override : Option Settings := none
  settings : Option (Stamped Settings) := none
  formatter : Option (Stamped Layout.Formatter) := none
  registry : Option (Stamped Registry) := none
  stamps : Nat := 0

namespace State

def fresh : State := {}

def setVariable (s : State) (v : Variable) (value : Option Text) : State :=
  { s with environment := s.environment.set v value }

def setFile (s : State) (file : Environment) : State := { s with file }

def setOverride (s : State) (settings : Option Settings) : State := { s with override := settings }

def reset (s : State) : State := { s with settings := none, formatter := none }

def load (s : State) : State := { s with toSettingsSource := s.toSettingsSource.load }

def getSettings (s : State) : Except SettingsError (Stamped Settings × State) :=
  match s.settings with
  | some kept => .ok (kept, s)
  | none =>
    match s.read with
    | .error e => .error e
    | .ok settings =>
      let kept : Stamped Settings := ⟨settings, s.stamps⟩
      .ok (kept, { s.load with settings := some kept, stamps := s.stamps + 1 })

def requestSettings (s : State) : Except SettingsError (Settings × State) :=
  match s.override with
  | some settings => .ok (settings, s)
  | none => s.getSettings.map fun (kept, s) => (kept.value, s)

def getFormatter (s : State) (settings : Settings) : Stamped Layout.Formatter × State :=
  let new : Stamped Layout.Formatter := ⟨{ config := settings.formatConfig }, s.stamps⟩
  let renewed : State := { s with formatter := some new, stamps := s.stamps + 1 }
  match s.formatter with
  | some kept => if kept.value.config = settings.formatConfig then (kept, s) else (new, renewed)
  | none => (new, renewed)

def getRegistry (s : State) : Stamped Registry × State :=
  match s.registry with
  | some kept => (kept, s)
  | none =>
    let kept : Stamped Registry := ⟨.standard, s.stamps⟩
    (kept, { s with registry := some kept, stamps := s.stamps + 1 })

theorem config_getFormatter (s : State) (settings : Settings) :
    (s.getFormatter settings).1.value.config = settings.formatConfig := by
  unfold getFormatter
  cases h : s.formatter with
  | none => rfl
  | some kept =>
    by_cases hc : kept.value.config = settings.formatConfig
    · simp [hc]
    · simp [hc]

theorem getSettings_of_settings {s : State} {kept : Stamped Settings} (h : s.settings = some kept) :
    s.getSettings = .ok (kept, s) := by
  simp [getSettings, h]

end State
end Bytebeat.Service
