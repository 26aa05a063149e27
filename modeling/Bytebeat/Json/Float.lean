import Bytebeat.Size.Binary64
import Bytebeat.Text.Digit
import Bytebeat.Value

namespace Bytebeat.Json

inductive Float where
  | finite (negative : Bool) (magnitude : Binary64)
  | infinite (negative : Bool)
  | notANumber

namespace Float

def farAway : Int := 400

def ofDecimal (negative : Bool) (digits : Nat) (exponent : Int) : Float :=
  let magnitude : Int := (Nat.toDigits 10 digits).length + exponent
  if digits = 0 || magnitude < -farAway then finite negative ⟨0, -1074⟩
  else if farAway < magnitude then infinite negative
  else
    match
      if 0 ≤ exponent then Binary64.ofQuotient? (digits * Nat.pow 10 exponent.toNat) 1
      else Binary64.ofQuotient? digits (Nat.pow 10 (-exponent).toNat)
    with
    | some x => finite negative x
    | none => infinite negative

def digitsValue (t : Text) : Nat := Text.valueOf 10 (t.filterMap CodePoint.asciiDigit?)

def ofLiteral (literal : Text) : Float :=
  let (negative, body) := Text.splitSign literal
  if body = "NaN" then notANumber
  else if body = "Infinity" then infinite negative
  else
    let isMark (c : CodePoint) : Bool := c = 'e' || c = 'E'
    let mantissa := body.takeWhile fun c => !isMark c
    let (downwards, power) := Text.splitSign ((body.dropWhile fun c => !isMark c).drop 1)
    let whole := mantissa.takeWhile fun c => c ≠ ('.' : CodePoint)
    let fraction := (mantissa.dropWhile fun c => c ≠ ('.' : CodePoint)).drop 1
    ofDecimal negative (digitsValue (whole ++ fraction)) (Text.signed downwards (digitsValue power) - fraction.length)

def toInt? : Float → Option Int
  | finite negative x => x.toNat?.map (Text.signed negative)
  | infinite _ => none
  | notANumber => none

def isFinite : Float → Bool
  | finite _ _ => true
  | infinite _ => false
  | notANumber => false

end Float

mutual
def isWritable : Value → Bool
  | .text t => !t.hasSurrogate
  | .float literal => (Float.ofLiteral literal).isFinite
  | .list items => areWritable items
  | .dict entries => areWritableEntries entries
  | _ => true

def areWritable : List Value → Bool
  | [] => true
  | v :: rest => isWritable v && areWritable rest

def areWritableEntries : List (Text × Value) → Bool
  | [] => true
  | (name, v) :: rest => !name.hasSurrogate && isWritable v && areWritableEntries rest
end

end Bytebeat.Json
