import Bytebeat.Text.Basic

namespace Bytebeat

def decimalZeros : List Nat := [
  0x30, 0x660, 0x6F0, 0x7C0, 0x966, 0x9E6, 0xA66, 0xAE6, 0xB66, 0xBE6, 0xC66, 0xCE6, 0xD66, 0xDE6, 0xE50, 0xED0,
  0xF20, 0x1040, 0x1090, 0x17E0, 0x1810, 0x1946, 0x19D0, 0x1A80, 0x1A90, 0x1B50, 0x1BB0, 0x1C40, 0x1C50, 0xA620,
  0xA8D0, 0xA900, 0xA9D0, 0xA9F0, 0xAA50, 0xABF0, 0xFF10, 0x104A0, 0x10D30, 0x11066, 0x110F0, 0x11136, 0x111D0,
  0x112F0, 0x11450, 0x114D0, 0x11650, 0x116C0, 0x11730, 0x118E0, 0x11950, 0x11C50, 0x11D50, 0x11DA0, 0x16A60,
  0x16AC0, 0x16B50, 0x1D7CE, 0x1D7D8, 0x1D7E2, 0x1D7EC, 0x1D7F6, 0x1E140, 0x1E2F0, 0x1E950, 0x1FBF0]

namespace CodePoint

def asciiDigit? (c : CodePoint) : Option Nat := if 0x30 ≤ c.val && c.val ≤ 0x39 then some (c.val - 0x30) else none

def decimalDigit? (c : CodePoint) : Option Nat :=
  (decimalZeros.find? fun z => z ≤ c.val && c.val < z + 10).map (c.val - ·)

def hexDigit? (c : CodePoint) : Option Nat :=
  let n := c.val
  if 0x30 ≤ n && n ≤ 0x39 then some (n - 0x30)
  else if 0x41 ≤ n && n ≤ 0x46 then some (n - 0x37)
  else if 0x61 ≤ n && n ≤ 0x66 then some (n - 0x57)
  else none

theorem hexDigit?_lt {c : CodePoint} {d : Nat} (h : c.hexDigit? = some d) : d < 16 := by
  simp only [hexDigit?, Bool.and_eq_true, decide_eq_true_eq] at h
  split at h
  · cases h; omega
  · split at h
    · cases h; omega
    · split at h
      · cases h; omega
      · cases h

def ofHexDigit (letter : Char) (d : Nat) : CodePoint :=
  if d % 16 < 10 then CodePoint.ofChar (Char.ofNat (0x30 + d % 16))
  else CodePoint.ofChar (Char.ofNat (letter.toNat + (d % 16 - 10)))

end CodePoint

namespace Text

def hex (letter : Char) : Nat → Nat → Text
  | 0, _ => []
  | width + 1, n => hex letter width (n / 16) ++ [CodePoint.ofHexDigit letter n]

def valueOf (base : Nat) (digits : List Nat) : Nat := digits.foldl (fun n d => base * n + d) 0

def digits? (digit? : CodePoint → Option Nat) : Text → Option (List Nat)
  | [] => none
  | [c] => (digit? c).map ([·])
  | c :: d :: t =>
    match digit? c with
    | none => none
    | some n => (if d = '_' then digits? digit? t else digits? digit? (d :: t)).map (n :: ·)

def splitSign : Text → Bool × Text
  | [] => (false, [])
  | c :: t => if c = '-' then (true, t) else if c = '+' then (false, t) else (false, c :: t)

def signed (negative : Bool) (n : Nat) : Int := if negative then -(n : Int) else n

def digitLimit : Nat := 4300

def tooManyDigits : Text :=
  "Exceeds the limit (4300 digits) for integer string conversion; use sys.set_int_max_str_digits() to increase the limit"

/-- A message with a number at its end; it gives way to a word on the limit if the number has too many digits. -/
def endingWith (start : Text) (n : Int) : Text :=
  if digitLimit < (ofNat n.natAbs).length then tooManyDigits else start ++ ofInt n

/--
A whole number as a setting or an option spells it: spaces around it, a sign, decimal digits of any script with
single underscores between them, and no more of them than the limit.
-/
def readInt? (t : Text) : Option Int := do
  let (negative, body) := splitSign (t.trimWhere CodePoint.isSpace)
  let digits ← digits? CodePoint.decimalDigit? body
  if digits.length ≤ digitLimit then some (signed negative (valueOf 10 digits)) else none

end Text
end Bytebeat
