import Bytebeat.Layout.Config

namespace Bytebeat.Service

structure Settings where
  formatConfig : Layout.Config := {}
  maxCodeLength : Nat := 1000000
  positive : 0 < maxCodeLength := by decide
  deriving DecidableEq

inductive Variable where
  | considerParens
  | maxParenDepth
  | codeMaxLength
  deriving DecidableEq

def Variable.name : Variable → Text
  | considerParens => "FORMAT_CONSIDER_PARENS"
  | maxParenDepth => "FORMAT_MAX_PAREN_DEPTH"
  | codeMaxLength => "CODE_MAX_LENGTH"

def Variable.ofName? (name : Text) : Option Variable :=
  [considerParens, maxParenDepth, codeMaxLength].find? fun v => v.name = name

abbrev Environment := Variable → Option Text

namespace Environment

def empty : Environment := fun _ => none

def set (env : Environment) (v : Variable) (value : Option Text) : Environment :=
  fun w => if w = v then value else env w

/-- The environment with the values of a file for those variables that are not set, be it to a blank. -/
def fill (env file : Environment) : Environment := fun v => (env v).or (file v)

def get? (env : Environment) (v : Variable) : Option Text := (env v).filter fun raw => !raw.isBlank

end Environment

inductive SettingsError where
  | notBoolean (v : Variable) (raw : Text)
  | notInteger (v : Variable) (raw : Text)
  | badConfig (e : Layout.ConfigError)
  | notPositive (length : Int)
  deriving DecidableEq

def SettingsError.message : SettingsError → Text
  | notBoolean v raw => v.name ++ " must be a boolean, got " ++ raw.quoted
  | notInteger v raw => v.name ++ " must be an integer, got " ++ raw.quoted
  | badConfig e => e.message
  | notPositive length => Text.endingWith "max_code_length must be positive, got " length

def trueWords : List Text := ["1", "true", "yes", "on"]

def falseWords : List Text := ["0", "false", "no", "off"]

def truth? (raw : Text) : Option Bool :=
  let word := raw.trim.lower
  if trueWords.contains word then some true else if falseWords.contains word then some false else none

def readBool (env : Environment) (v : Variable) (default : Bool) : Except SettingsError Bool :=
  match env.get? v with
  | none => .ok default
  | some raw =>
    match truth? raw with
    | some b => .ok b
    | none => .error (.notBoolean v raw)

def readInt (env : Environment) (v : Variable) (default : Int) : Except SettingsError Int :=
  match env.get? v with
  | none => .ok default
  | some raw =>
    match Text.readInt? raw with
    | some n => .ok n
    | none => .error (.notInteger v raw)

namespace Settings

def ofLength (formatConfig : Layout.Config) (length : Int) : Except SettingsError Settings :=
  if h : 0 < length then .ok { formatConfig, maxCodeLength := length.toNat, positive := by omega }
  else .error (.notPositive length)

def ofEnvironment (env : Environment) : Except SettingsError Settings := do
  let considerParens ← readBool env .considerParens true
  let depth ← readInt env .maxParenDepth 0
  let formatConfig ← (Layout.Config.ofInt considerParens depth).mapError .badConfig
  let length ← readInt env .codeMaxLength 1000000
  ofLength formatConfig length

end Settings

/-- Where settings come from: an environment, and a file that is loaded into it each time before it is read. -/
structure SettingsSource where
  environment : Environment := .empty
  file : Environment := .empty

namespace SettingsSource

def load (source : SettingsSource) : SettingsSource :=
  { source with environment := source.environment.fill source.file }

def read (source : SettingsSource) : Except SettingsError Settings := Settings.ofEnvironment source.load.environment

end SettingsSource
end Bytebeat.Service
