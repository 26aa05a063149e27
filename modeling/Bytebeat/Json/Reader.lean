import Bytebeat.Json.Float
import Bytebeat.Packing.Escape
import Bytebeat.Table
import Bytebeat.Value

/-!
Reading values from JSON text.

A fault is told by the position at which the reader gives up: where a value, a property name, a colon or a comma was
due, the opening quote of a string that does not end, a control character in a string, the backslash of a bad
escape, or the `u` of one without four digits and something after them. Three names of numbers beyond the standard
are read too. Of two entries under one name the later counts. Lists and objects nest up to a limit.
-/

namespace Bytebeat.Json

inductive ReadError where
  | malformed (position : Nat)
  | tooManyDigits
  | tooDeep
  deriving DecidableEq

structure Cursor where
  position : Nat
  rest : Text

def isSpace (c : CodePoint) : Bool := c = ' ' || c = '\t' || c = '\n' || c = '\r'

def skipSpace (position : Nat) : Text → Cursor
  | [] => ⟨position, []⟩
  | c :: rest => if isSpace c then skipSpace (position + 1) rest else ⟨position, c :: rest⟩

def Cursor.skipSpace (here : Cursor) : Cursor := Json.skipSpace here.position here.rest

def Cursor.advance (here : Cursor) (n : Nat) : Cursor := ⟨here.position + n, here.rest.drop n⟩

/-! ## Strings -/

def escaped? (c : CodePoint) : Option CodePoint :=
  if c = '"' || c = '\\' || c = '/' then some c
  else if c = 'b' then some '\x08'
  else if c = 'f' then some '\x0c'
  else if c = 'n' then some '\n'
  else if c = 'r' then some '\r'
  else if c = 't' then some '\t'
  else none

def hexPoint? (t : Text) : Option CodePoint :=
  match t with
  | a :: b :: c :: d :: _ :: _ => do
    let digits ← [a, b, c, d].mapM CodePoint.hexDigit?
    CodePoint.ofNat? (Text.valueOf 16 digits)
  | _ => none

def lowHalf? (t : Text) : Option CodePoint :=
  match Text.dropStart? "\\u" t with
  | some t =>
    match hexPoint? t with
    | some c => if c.isLow then some c else none
    | none => none
  | none => none

def readEscape (opening : Nat) (here : Cursor) : Except ReadError (CodePoint × Nat) :=
  match here.rest with
  | _ :: c :: rest =>
    if c = 'u' then
      match hexPoint? rest with
      | none => .error (.malformed (here.position + 1))
      | some c =>
        match if c.isHigh then lowHalf? (rest.drop 4) else none with
        | some low => .ok (.ofPair c low, 12)
        | none => .ok (c, 6)
    else
      match escaped? c with
      | some c => .ok (c, 2)
      | none => .error (.malformed here.position)
  | _ => .error (.malformed opening)

/--
The string whose opening quote stands at a position, from a place inside it, on top of what is done, which is kept
in reverse. Each step takes a code point or more, so the length of the rest bounds their number.
-/
def readString (opening : Nat) : Nat → Text → Cursor → Except ReadError (Text × Cursor)
  | 0, _, _ => .error (.malformed opening)
  | steps + 1, done, here =>
    match here.rest with
    | [] => .error (.malformed opening)
    | c :: rest =>
      if c = '"' then .ok (done.reverse, ⟨here.position + 1, rest⟩)
      else if c.val < 0x20 then .error (.malformed here.position)
      else if c = '\\' then
        match readEscape opening here with
        | .error e => .error e
        | .ok (c, length) => readString opening steps (c :: done) (here.advance length)
      else readString opening steps (c :: done) ⟨here.position + 1, rest⟩

def Cursor.readString (here : Cursor) : Except ReadError (Text × Cursor) :=
  Json.readString here.position here.rest.length [] (here.advance 1)

/-! ## Numbers and names -/

def isDigit (c : CodePoint) : Bool := c.asciiDigit?.isSome

def wholePart (t : Text) : Text :=
  match t with
  | [] => []
  | c :: _ => if c = '0' then [c] else t.takeWhile isDigit

def fractionPart (t : Text) : Text :=
  match t with
  | [] => []
  | c :: rest => if c = '.' && !(rest.takeWhile isDigit).isEmpty then c :: rest.takeWhile isDigit else []

def exponentPart (t : Text) : Text :=
  match t with
  | [] => []
  | c :: rest =>
    let sign := (rest.take 1).filter fun d => d = ('+' : CodePoint) || d = ('-' : CodePoint)
    let digits := (rest.drop sign.length).takeWhile isDigit
    if (c = 'e' || c = 'E') && !digits.isEmpty then c :: sign ++ digits else []

def Cursor.readNumber (here : Cursor) : Except ReadError (Value × Cursor) :=
  let sign := (here.rest.take 1).filter fun c : CodePoint => c = ('-' : CodePoint)
  let whole := wholePart (here.rest.drop sign.length)
  let rest := here.rest.drop (sign.length + whole.length)
  let fraction := fractionPart rest
  let exponent := exponentPart (rest.drop fraction.length)
  let literal := sign ++ whole ++ fraction ++ exponent
  let value : Value :=
    if fraction.isEmpty && exponent.isEmpty then .int (Text.signed (!sign.isEmpty) (Float.digitsValue whole))
    else .float literal
  if whole.isEmpty then .error (.malformed here.position)
  else if fraction.isEmpty && exponent.isEmpty && Text.digitLimit < whole.length then .error .tooManyDigits
  else .ok (value, here.advance literal.length)

def namedValues : List (Text × Value) :=
  [("null", .null), ("true", .bool true), ("false", .bool false), ("NaN", .float "NaN"),
    ("Infinity", .float "Infinity"), ("-Infinity", .float "-Infinity")]

def Cursor.readPlain (here : Cursor) : Except ReadError (Value × Cursor) :=
  match namedValues.find? fun (name, _) => (Text.dropStart? name here.rest).isSome with
  | some (name, v) => .ok (v, here.advance name.length)
  | none => here.readNumber

/-! ## Values -/

def Cursor.expect (here : Cursor) (sign : CodePoint) : Except ReadError Cursor :=
  if here.rest.head? = some sign then .ok (here.advance 1) else .error (.malformed here.position)

def depthLimit : Nat := 960

mutual
/--
The value that begins here. The first number bounds the steps, of which two together take a code point, the second
the depth of the lists and objects in the value.
-/
def readValue : Nat → Nat → Cursor → Except ReadError (Value × Cursor)
  | 0, _, here => .error (.malformed here.position)
  | steps + 1, depth, here =>
    if here.rest.head? = some ('"' : CodePoint) then
      here.readString.map fun (t, there) => (.text t, there)
    else if here.rest.head? = some ('[' : CodePoint) then
      let there := (here.advance 1).skipSpace
      match depth with
      | 0 => .error .tooDeep
      | depth + 1 =>
        if there.rest.head? = some (']' : CodePoint) then .ok (.list [], there.advance 1)
        else readItems steps depth [] there
    else if here.rest.head? = some ('\x7b' : CodePoint) then
      let there := (here.advance 1).skipSpace
      match depth with
      | 0 => .error .tooDeep
      | depth + 1 =>
        if there.rest.head? = some ('\x7d' : CodePoint) then .ok (.dict [], there.advance 1)
        else readEntries steps depth [] there
    else here.readPlain

def readItems : Nat → Nat → List Value → Cursor → Except ReadError (Value × Cursor)
  | 0, _, _, here => .error (.malformed here.position)
  | steps + 1, depth, done, here =>
    match readValue steps depth here with
    | .error e => .error e
    | .ok (v, there) =>
      let there := there.skipSpace
      if there.rest.head? = some (']' : CodePoint) then .ok (.list (v :: done).reverse, there.advance 1)
      else
        match there.expect ',' with
        | .error e => .error e
        | .ok there => readItems steps depth (v :: done) there.skipSpace

def readEntries : Nat → Nat → List (Text × Value) → Cursor → Except ReadError (Value × Cursor)
  | 0, _, _, here => .error (.malformed here.position)
  | steps + 1, depth, done, here =>
    if here.rest.head? ≠ some ('"' : CodePoint) then .error (.malformed here.position)
    else
      match here.readString with
      | .error e => .error e
      | .ok (name, there) =>
        match there.skipSpace.expect ':' with
        | .error e => .error e
        | .ok there =>
          match readValue steps depth there.skipSpace with
          | .error e => .error e
          | .ok (v, there) =>
            let there := there.skipSpace
            if there.rest.head? = some ('\x7d' : CodePoint) then
              .ok (.dict (Table.ofList ((name, v) :: done).reverse).entries, there.advance 1)
            else
              match there.expect ',' with
              | .error e => .error e
              | .ok there => readEntries steps depth ((name, v) :: done) there.skipSpace
end

def read (t : Text) : Except ReadError Value :=
  let start := skipSpace 0 t
  match readValue (2 * t.length + 2) depthLimit start with
  | .error e => .error e
  | .ok (v, here) => if here.skipSpace.rest.isEmpty then .ok v else .error (.malformed here.skipSpace.position)

end Bytebeat.Json
