import Bytebeat.Text.Digit
import Bytebeat.Text.Units

namespace Bytebeat.Packing

def isSafe (u : CodeUnit) : Bool :=
  let n := u.val
  (0x30 ≤ n && n ≤ 0x39) || (0x40 ≤ n && n ≤ 0x5A) || (0x61 ≤ n && n ≤ 0x7A)
    || n == 0x2A || n == 0x2B || (0x2D ≤ n && n ≤ 0x2F) || n == 0x5F

def escapeUnit (u : CodeUnit) : Text :=
  if isSafe u then [u.codePoint]
  else if u.val < 0x100 then '%' :: Text.hex 'A' 2 u.val
  else '%' :: 'u' :: Text.hex 'A' 4 u.val

def escapeUnits (us : List CodeUnit) : Text := us.flatMap escapeUnit

def escape (t : Text) : Text := escapeUnits t.units

def hexByte? (a b : CodeUnit) : Option CodeUnit := do
  let a ← a.codePoint.hexDigit?
  let b ← b.codePoint.hexDigit?
  return .ofNat (16 * a + b)

def hexWord? (a b c d : CodeUnit) : Option CodeUnit := do
  let high ← hexByte? a b
  let low ← hexByte? c d
  return .ofNat (256 * high.val + low.val)

def longSequence? : List CodeUnit → Option CodeUnit
  | u :: a :: b :: c :: d :: _ => if u.val = 0x75 then hexWord? a b c d else none
  | _ => none

def shortSequence? : List CodeUnit → Option CodeUnit
  | a :: b :: _ => hexByte? a b
  | _ => none

/--
What a unit and the units after it stand for: the unit that a sequence names and how many units after the percent
sign belong to it, or the unit itself.
-/
def decodeAt (u : CodeUnit) (rest : List CodeUnit) : CodeUnit × Nat :=
  if u.val = 0x25 then
    match longSequence? rest, shortSequence? rest with
    | some v, _ => (v, 5)
    | none, some v => (v, 2)
    | none, none => (u, 0)
  else (u, 0)

def unescapeOnto (done : List CodeUnit) : Nat → List CodeUnit → List CodeUnit
  | _, [] => done.reverse
  | skip + 1, _ :: rest => unescapeOnto done skip rest
  | 0, u :: rest => unescapeOnto ((decodeAt u rest).1 :: done) (decodeAt u rest).2 rest

def unescapeUnits (us : List CodeUnit) : List CodeUnit := unescapeOnto [] 0 us

def unescape (t : Text) : Text := .ofUnits (unescapeUnits t.units)

theorem unescapeOnto_eq (done : List CodeUnit) (skip : Nat) (us : List CodeUnit) :
    unescapeOnto done skip us = done.reverse ++ unescapeUnits (us.drop skip) := by
  induction us generalizing done skip with
  | nil => simp [unescapeOnto, unescapeUnits]
  | cons u rest ih =>
    cases skip with
    | succ skip => simpa [unescapeOnto] using ih done skip
    | zero =>
      simp only [unescapeOnto, unescapeUnits, List.drop_zero]
      rw [ih, ih [(decodeAt u rest).1]]
      simp

theorem unescapeUnits_cons (u : CodeUnit) (rest : List CodeUnit) :
    unescapeUnits (u :: rest) = (decodeAt u rest).1 :: unescapeUnits (rest.drop (decodeAt u rest).2) := by
  rw [unescapeUnits, unescapeOnto, unescapeOnto_eq]
  rfl

@[simp] theorem unescapeUnits_nil : unescapeUnits [] = [] := rfl

def markOnto (done : Text) : Text → Text
  | c :: a :: b :: rest =>
    if c = 'u' then markOnto ('%' :: b :: a :: done) rest else markOnto (c :: done) (a :: b :: rest)
  | rest => done.reverse ++ rest

/-- Each `u` with two code points after it gives way to these two and a percent sign, from left to right. -/
def mark (t : Text) : Text := markOnto [] t

theorem markOnto_eq : ∀ done t : Text, markOnto done t = done.reverse ++ mark t
  | done, c :: a :: b :: rest => by
    by_cases h : c = 'u'
    · rw [mark, markOnto, markOnto, if_pos h, if_pos h, markOnto_eq _ rest, markOnto_eq ['%', b, a] rest]
      simp
    · rw [mark, markOnto, markOnto, if_neg h, if_neg h, markOnto_eq _ (a :: b :: rest), markOnto_eq [c] (a :: b :: rest)]
      simp
  | done, [] => by simp [mark, markOnto]
  | done, [c] => by simp [mark, markOnto]
  | done, [c, a] => by simp [mark, markOnto]

theorem mark_u (a b : CodePoint) (rest : Text) : mark ('u' :: a :: b :: rest) = a :: b :: '%' :: mark rest := by
  rw [mark, markOnto, if_pos rfl, markOnto_eq]
  rfl

theorem mark_cons {c : CodePoint} (h : c ≠ 'u') (t : Text) : mark (c :: t) = c :: mark t := by
  match t with
  | [] => rfl
  | [_] => rfl
  | a :: b :: rest =>
    rw [mark, markOnto, if_neg h, markOnto_eq]
    rfl

end Bytebeat.Packing
