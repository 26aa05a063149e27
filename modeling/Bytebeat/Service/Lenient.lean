import Bytebeat.Json.Float
import Bytebeat.Service.Issue
import Bytebeat.Text.Digit

namespace Bytebeat.Service

/-! ## Flags -/

def trueSpellings : List Text := ["1", "on", "t", "true", "y", "yes"]

def falseSpellings : List Text := ["0", "off", "f", "false", "n", "no"]

def flag? (t : Text) : Option Bool :=
  if trueSpellings.contains t.lower then some true else if falseSpellings.contains t.lower then some false else none

def wordLimit : Int := 0x8000000000000000

def flagOfInt (n : Int) : Except IssueKind Bool :=
  if n = 0 then .ok false
  else if n = 1 then .ok true
  else if -wordLimit ≤ n && n < wordLimit then .error .boolParsing
  else .error .boolType

/-! ## Whole numbers -/

def intOfLiteral (literal : Text) : Except IssueKind Int :=
  let x := Json.Float.ofLiteral literal
  match x.toInt? with
  | some n => if -wordLimit < n && n < wordLimit then .ok n else .error .intParsingSize
  | none => if x.isFinite then .error .intFromFloat else .error .finiteNumber

def flagOfLiteral (literal : Text) : Except IssueKind Bool :=
  match intOfLiteral literal with
  | .ok n => flagOfInt n
  | .error _ => .error .boolType

def isDigit (c : CodePoint) : Bool := c.asciiDigit?.isSome

def isFiller (c : CodePoint) : Bool := c = '0' || c = '_'

/--
The text from its first digit that counts: zeros in front give way to another digit or a minus sign, but the sign
before a point or at the end stays.
-/
def significant? (t : Text) : Option Text :=
  match t with
  | [] => none
  | first :: _ =>
    if first = '0' then
      let filler := t.takeWhile isFiller
      let last := filler.drop (filler.length - 1)
      match t.drop filler.length with
      | [] => some last
      | c :: rest =>
        if c = '.' then some (last ++ c :: rest)
        else if c = '-' || isDigit c then some (c :: rest)
        else none
    else if isDigit first then some t
    else none

def dropDecimals (t : Text) : Text :=
  let whole := t.takeWhile fun c => c ≠ ('.' : CodePoint)
  let decimals := t.drop (whole.length + 1)
  if !decimals.isEmpty && decimals.all fun c => c = ('0' : CodePoint) then whole else t

def underscoresInside (t : Text) : Bool :=
  let isUnderscore (c : CodePoint) : Bool := c = '_'
  !t.head?.any isUnderscore && !t.getLast?.any isUnderscore
    && !(t.zip t.tail).any fun (a, b) => isUnderscore a && isUnderscore b

def dropUnderscores (t : Text) : Text :=
  if underscoresInside t then t.filter fun c => c ≠ ('_' : CodePoint) else t

def plainInt (t : Text) : Except IssueKind Int :=
  let negative := t.head? = some ('-' : CodePoint)
  let body := if negative then t.drop 1 else t
  let digits := body.takeWhile isDigit
  let isPlain := !digits.isEmpty && (digits.head? ≠ some ('0' : CodePoint) || digits.length = 1)
  if isPlain && Text.digitLimit < digits.length then .error .intParsingSize
  else if isPlain && digits.length = body.length then
    .ok (Text.signed negative (Text.valueOf 10 (digits.filterMap CodePoint.asciiDigit?)))
  else .error .intParsing

def intOfText (t : Text) : Except IssueKind Int :=
  let (negative, body) := Text.splitSign (t.trimWhere CodePoint.isSpace)
  match significant? body with
  | none => .error .intParsing
  | some body =>
    let plain := dropUnderscores (dropDecimals body)
    plainInt (if negative then '-' :: plain else plain)

end Bytebeat.Service
