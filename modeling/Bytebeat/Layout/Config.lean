import Bytebeat.Value

namespace Bytebeat.Layout

structure Config where
  considerParens : Bool := true
  maxParenDepth : Nat := 0
  deriving DecidableEq

inductive ConfigError where
  | considerParensKind (got : Kind)
  | maxParenDepthKind (got : Kind)
  | negativeDepth (got : Int)
  deriving DecidableEq

def ConfigError.message : ConfigError → Text
  | considerParensKind got => "consider_parens must be bool, got " ++ got.name
  | maxParenDepthKind got => "max_paren_depth must be int, got " ++ got.name
  | negativeDepth got => Text.endingWith "max_paren_depth must be non-negative, got " got

namespace Config

def topLevel : Config := {}

def shallow : Config := { maxParenDepth := 1 }

def anyDepth : Config := { considerParens := false }

def allows (config : Config) (depth : Int) : Bool := !config.considerParens || depth ≤ config.maxParenDepth

def join (a b : Config) : Config :=
  { considerParens := a.considerParens && b.considerParens, maxParenDepth := max a.maxParenDepth b.maxParenDepth }

def ofInt (considerParens : Bool) (depth : Int) : Except ConfigError Config :=
  if depth < 0 then .error (.negativeDepth depth) else .ok { considerParens, maxParenDepth := depth.toNat }

def ofValues (considerParens maxParenDepth : Value) : Except ConfigError Config :=
  match considerParens, maxParenDepth with
  | .bool b, .int depth => ofInt b depth
  | .bool _, other => .error (.maxParenDepthKind other.kind)
  | other, _ => .error (.considerParensKind other.kind)

theorem allows_join (a b : Config) (depth : Int) : (a.join b).allows depth = (a.allows depth || b.allows depth) := by
  cases ha : a.considerParens <;> cases hb : b.considerParens <;>
    simp only [allows, join, ha, hb, Bool.and_true, Bool.and_false, Bool.not_true, Bool.not_false, Bool.true_or,
      Bool.false_or, Bool.or_true]
  apply Bool.eq_iff_iff.mpr
  simp only [Bool.or_eq_true, decide_eq_true_eq]
  omega

end Config
end Bytebeat.Layout
