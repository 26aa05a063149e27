import Bytebeat.Service.Settings

namespace Bytebeat.Service

def Environment.Omits (env : Environment) (v : Variable) : Prop := ∀ raw, env v = some raw → raw.isBlank = true

inductive Contributes {α : Type} (env : Environment) (v : Variable) (read : Text → Option α) (default : α) : α → Prop where
  | omitted (omits : env.Omits v) : Contributes env v read default default
  | spelled {raw : Text} {a : α} (set : env v = some raw) (shown : raw.isBlank = false) (reads : read raw = some a) :
      Contributes env v read default a

structure Environment.Spells (env : Environment) (settings : Settings) : Prop where
  considerParens : Contributes env .considerParens truth? true settings.formatConfig.considerParens
  maxParenDepth : Contributes env .maxParenDepth Text.readInt? 0 (settings.formatConfig.maxParenDepth : Int)
  maxCodeLength : Contributes env .codeMaxLength Text.readInt? 1000000 (settings.maxCodeLength : Int)

theorem bind_eq_ok_iff {ε α β : Type} {a : Except ε α} {next : α → Except ε β} {b : β} :
    a >>= next = .ok b ↔ ∃ x, a = .ok x ∧ next x = .ok b := by
  cases a with
  | error e => exact iff_of_false nofun nofun
  | ok x => exact ⟨fun same => ⟨x, rfl, same⟩, fun ⟨_, same, goesOn⟩ => Except.ok.inj same ▸ goesOn⟩

theorem mapError_eq_ok_iff {ε ε' α : Type} {a : Except ε α} {f : ε → ε'} {x : α} :
    a.mapError f = .ok x ↔ a = .ok x := by
  cases a with
  | error e => exact iff_of_false nofun nofun
  | ok y => exact ⟨fun same => Except.ok.inj same ▸ rfl, fun same => Except.ok.inj same ▸ rfl⟩

variable {env : Environment} {v : Variable}

theorem Environment.get?_eq_none_iff : env.get? v = none ↔ env.Omits v := by
  simp [get?, Omits, Option.filter_eq_none_iff]

theorem Environment.get?_eq_some_iff {raw : Text} : env.get? v = some raw ↔ env v = some raw ∧ raw.isBlank = false := by
  simp [get?, Option.filter_eq_some_iff]

theorem contributes_iff {α : Type} {read : Text → Option α} {default a : α} : Contributes env v read default a ↔
    (env.get? v = none ∧ a = default) ∨ ∃ raw, env.get? v = some raw ∧ read raw = some a := by
  constructor
  · intro contributes
    cases contributes with
    | omitted omits => exact .inl ⟨Environment.get?_eq_none_iff.mpr omits, rfl⟩
    | spelled set shown reads => exact .inr ⟨_, Environment.get?_eq_some_iff.mpr ⟨set, shown⟩, reads⟩
  · rintro (⟨omitted, rfl⟩ | ⟨raw, found, reads⟩)
    · exact .omitted (Environment.get?_eq_none_iff.mp omitted)
    · obtain ⟨set, shown⟩ := Environment.get?_eq_some_iff.mp found
      exact .spelled set shown reads

theorem readBool_eq_ok_iff {default b : Bool} :
    readBool env v default = .ok b ↔ Contributes env v truth? default b := by
  rw [contributes_iff, readBool]
  cases found : env.get? v with
  | none => simp [eq_comm]
  | some raw => cases read : truth? raw <;> simp [read]

theorem readInt_eq_ok_iff {default n : Int} :
    readInt env v default = .ok n ↔ Contributes env v Text.readInt? default n := by
  rw [contributes_iff, readInt]
  cases found : env.get? v with
  | none => simp [eq_comm]
  | some raw => cases read : Text.readInt? raw <;> simp [read]

theorem ofInt_eq_ok_iff {b : Bool} {depth : Int} {config : Layout.Config} :
    Layout.Config.ofInt b depth = .ok config ↔ config.considerParens = b ∧ (config.maxParenDepth : Int) = depth := by
  unfold Layout.Config.ofInt
  split
  · refine iff_of_false nofun fun ⟨_, same⟩ => ?_
    omega
  · constructor
    · rintro ⟨⟩
      exact ⟨rfl, Int.toNat_of_nonneg (by omega)⟩
    · rintro ⟨rfl, rfl⟩
      rfl

theorem ofLength_eq_ok_iff {config : Layout.Config} {length : Int} {settings : Settings} :
    Settings.ofLength config length = .ok settings ↔
      settings.formatConfig = config ∧ (settings.maxCodeLength : Int) = length := by
  unfold Settings.ofLength
  split
  · constructor
    · rintro ⟨⟩
      exact ⟨rfl, Int.toNat_of_nonneg (by omega)⟩
    · rintro ⟨rfl, rfl⟩
      rfl
  · refine iff_of_false nofun fun ⟨_, same⟩ => ?_
    have := settings.positive
    omega

theorem ofEnvironment_eq_ok_iff {settings : Settings} :
    Settings.ofEnvironment env = .ok settings ↔ env.Spells settings := by
  simp only [Settings.ofEnvironment, bind_eq_ok_iff, mapError_eq_ok_iff, readBool_eq_ok_iff, readInt_eq_ok_iff,
    ofInt_eq_ok_iff, ofLength_eq_ok_iff]
  constructor
  · rintro ⟨_, flag, _, depth, _, ⟨rfl, rfl⟩, _, length, rfl, rfl⟩
    exact ⟨flag, depth, length⟩
  · intro spells
    exact ⟨_, spells.considerParens, _, spells.maxParenDepth, _, ⟨rfl, rfl⟩, _, spells.maxCodeLength, rfl, rfl⟩

end Bytebeat.Service
