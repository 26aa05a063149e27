import Bytebeat.Text.Units
import Bytebeat.Text.Utf8

namespace Bytebeat.Json

inductive ByteOrder where
  | big
  | little
  deriving DecidableEq

inductive Encoding where
  | utf8
  | utf16 (order : ByteOrder)
  | utf32 (order : ByteOrder)
  deriving DecidableEq

def markedEncoding? : List UInt8 → Option (Encoding × List UInt8)
  | 0x00 :: 0x00 :: 0xFE :: 0xFF :: rest => some (.utf32 .big, rest)
  | 0xFF :: 0xFE :: 0x00 :: 0x00 :: rest => some (.utf32 .little, rest)
  | 0xFE :: 0xFF :: rest => some (.utf16 .big, rest)
  | 0xFF :: 0xFE :: rest => some (.utf16 .little, rest)
  | 0xEF :: 0xBB :: 0xBF :: rest => some (.utf8, rest)
  | _ => none

def plainEncoding : List UInt8 → Encoding
  | a :: b :: c :: d :: _ =>
    if a = 0 then if b = 0 then .utf32 .big else .utf16 .big
    else if b = 0 then if c = 0 && d = 0 then .utf32 .little else .utf16 .little
    else .utf8
  | [a, b] => if a = 0 then .utf16 .big else if b = 0 then .utf16 .little else .utf8
  | _ => .utf8

def ByteOrder.bigFirst (order : ByteOrder) (bytes : List UInt8) : List UInt8 :=
  match order with
  | .big => bytes
  | .little => bytes.reverse

def ByteOrder.value (order : ByteOrder) (bytes : List UInt8) : Nat :=
  (order.bigFirst bytes).foldl (fun n b => 256 * n + b.toNat) 0

/-- The numbers that groups of bytes spell, if the last group is full; as many steps as bytes are enough. -/
def ByteOrder.groups? (order : ByteOrder) (width : Nat) : Nat → List UInt8 → List Nat → Option (List Nat)
  | _, [], done => some done.reverse
  | 0, _ :: _, _ => none
  | steps + 1, bytes, done =>
    if bytes.length < width then none
    else order.groups? width steps (bytes.drop width) (order.value (bytes.take width) :: done)

def Encoding.decode? (encoding : Encoding) (bytes : List UInt8) : Option Text :=
  match encoding with
  | .utf8 => Text.ofUtf8? bytes .allowed
  | .utf16 order => (order.groups? 2 bytes.length bytes []).map fun units => Text.ofUnits (units.map CodeUnit.ofNat)
  | .utf32 order => (order.groups? 4 bytes.length bytes []).bind fun points => points.mapM CodePoint.ofNat?

def decode? (bytes : List UInt8) : Option Text :=
  match markedEncoding? bytes with
  | some (encoding, rest) => encoding.decode? rest
  | none => (plainEncoding bytes).decode? bytes

end Bytebeat.Json
