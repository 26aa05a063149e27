import Bytebeat.Text.Basic

namespace Bytebeat

namespace CodePoint

def utf8Length (c : CodePoint) : Nat :=
  if c.val < 0x80 then 1 else if c.val < 0x800 then 2 else if c.val < 0x10000 then 3 else 4

def utf8 (c : CodePoint) : List UInt8 :=
  let n := c.val
  let tail (k : Nat) : UInt8 := UInt8.ofNat (0x80 + (n >>> (6 * k)) % 64)
  if n < 0x80 then [UInt8.ofNat n]
  else if n < 0x800 then [UInt8.ofNat (0xC0 + n >>> 6), tail 0]
  else if n < 0x10000 then [UInt8.ofNat (0xE0 + n >>> 12), tail 1, tail 0]
  else [UInt8.ofNat (0xF0 + n >>> 18), tail 2, tail 1, tail 0]

def ofByte (b : UInt8) : CodePoint := ⟨b.toNat, Nat.lt_trans b.toNat_lt (by decide)⟩

theorem length_utf8 (c : CodePoint) : c.utf8.length = c.utf8Length := by
  simp only [utf8, utf8Length]
  repeat' split
  all_goals rfl

end CodePoint

namespace Text

def utf8Length (t : Text) : Nat := t.foldl (fun n c => n + c.utf8Length) 0

def utf8 (t : Text) : List UInt8 := t.flatMap CodePoint.utf8

def replacementSign : CodePoint := '\uFFFD'

def lossy (t : Text) : Text :=
  t.flatMap fun c => if c.isSurrogate then List.replicate c.utf8Length replacementSign else [c]

def ofBytes (bytes : List UInt8) : Text := bytes.map CodePoint.ofByte

inductive Surrogates where
  | refused
  | allowed
  deriving DecidableEq

def continuation? (b : UInt8) : Option Nat :=
  if 0x80 ≤ b.toNat && b.toNat < 0xC0 then some (b.toNat - 0x80) else none

def readUtf8? (surrogates : Surrogates) : List UInt8 → Option (CodePoint × List UInt8)
  | [] => none
  | b :: bs =>
    let n := b.toNat
    if n < 0x80 then (CodePoint.ofNat? n).map (·, bs)
    else if 0xC2 ≤ n && n < 0xE0 then
      match bs with
      | b₁ :: rest => do
        let x ← continuation? b₁
        (CodePoint.ofNat? ((n - 0xC0) * 64 + x)).map (·, rest)
      | _ => none
    else if 0xE0 ≤ n && n < 0xF0 then
      match bs with
      | b₁ :: b₂ :: rest => do
        let x ← continuation? b₁
        let y ← continuation? b₂
        let c ← CodePoint.ofNat? (((n - 0xE0) * 64 + x) * 64 + y)
        if c.val < 0x800 || (c.isSurrogate && surrogates == .refused) then none else some (c, rest)
      | _ => none
    else if 0xF0 ≤ n && n < 0xF5 then
      match bs with
      | b₁ :: b₂ :: b₃ :: rest => do
        let x ← continuation? b₁
        let y ← continuation? b₂
        let z ← continuation? b₃
        let c ← CodePoint.ofNat? ((((n - 0xF0) * 64 + x) * 64 + y) * 64 + z)
        if c.val < 0x10000 then none else some (c, rest)
      | _ => none
    else none

def readAllUtf8? (surrogates : Surrogates) : Nat → List UInt8 → Text → Option Text
  | _, [], done => some done.reverse
  | 0, _ :: _, _ => none
  | steps + 1, b :: bs, done =>
    match readUtf8? surrogates (b :: bs) with
    | none => none
    | some (c, rest) => readAllUtf8? surrogates steps rest (c :: done)

def ofUtf8? (bytes : List UInt8) (surrogates : Surrogates := .refused) : Option Text :=
  readAllUtf8? surrogates bytes.length bytes []

end Text
end Bytebeat
