import Bytebeat.Text.Basic

namespace Bytebeat

structure CodeUnit where
  val : Nat
  isLt : val < 0x10000
  deriving DecidableEq

namespace CodeUnit

theorem ext {a b : CodeUnit} (h : a.val = b.val) : a = b := by
  cases a; cases b; cases h; rfl

instance : Inhabited CodeUnit := ⟨⟨0, by decide⟩⟩

def ofNat (n : Nat) : CodeUnit := ⟨n % 0x10000, Nat.mod_lt _ (by decide)⟩

def ofNat? (n : Nat) : Option CodeUnit := if h : n < 0x10000 then some ⟨n, h⟩ else none

def codePoint (u : CodeUnit) : CodePoint := ⟨u.val, Nat.lt_trans u.isLt (by decide)⟩

end CodeUnit

namespace CodePoint

theorem high_lt {n : Nat} (h : n < 0x110000) : 0xD800 + (n - 0x10000) / 0x400 < 0x10000 := by omega

theorem low_lt (n : Nat) : 0xDC00 + (n - 0x10000) % 0x400 < 0x10000 := by omega

def units (c : CodePoint) : List CodeUnit :=
  if h : c.val < 0x10000 then [⟨c.val, h⟩]
  else [⟨0xD800 + (c.val - 0x10000) / 0x400, high_lt c.isLt⟩, ⟨0xDC00 + (c.val - 0x10000) % 0x400, low_lt c.val⟩]

theorem pair_lt (high low : Nat) : 0x10000 + (high - 0xD800) % 0x400 * 0x400 + (low - 0xDC00) % 0x400 < 0x110000 := by
  omega

def ofPair (high low : CodePoint) : CodePoint :=
  ⟨0x10000 + (high.val - 0xD800) % 0x400 * 0x400 + (low.val - 0xDC00) % 0x400, pair_lt _ _⟩

theorem units_of_lt {c : CodePoint} (h : c.val < 0x10000) : c.units = [⟨c.val, h⟩] := by
  simp [units, h]

theorem units_ofPair {a b : CodePoint} (ha : a.isHigh = true) (hb : b.isLow = true) :
    (ofPair a b).units = a.units ++ b.units := by
  simp only [isHigh, isLow, Bool.and_eq_true, decide_eq_true_eq] at ha hb
  have pair : (ofPair a b).val = 0x10000 + (a.val - 0xD800) % 0x400 * 0x400 + (b.val - 0xDC00) % 0x400 := rfl
  have h : ¬ (ofPair a b).val < 0x10000 := by omega
  rw [units_of_lt (c := a) (by omega), units_of_lt (c := b) (by omega), units, dif_neg h]
  refine congr (congrArg List.cons (CodeUnit.ext ?_)) (congrArg (· :: []) (CodeUnit.ext ?_))
  · show 0xD800 + ((ofPair a b).val - 0x10000) / 0x400 = a.val
    omega
  · show 0xDC00 + ((ofPair a b).val - 0x10000) % 0x400 = b.val
    omega

end CodePoint

namespace Text

def units (t : Text) : List CodeUnit := t.flatMap CodePoint.units

@[simp] theorem units_nil : units [] = [] := rfl

@[simp] theorem units_cons (c : CodePoint) (t : Text) : units (c :: t) = c.units ++ units t := rfl

@[simp] theorem units_append (s t : Text) : units (s ++ t) = units s ++ units t := List.flatMap_append

def consUnit (u : CodeUnit) : Text → Text
  | [] => [u.codePoint]
  | c :: t =>
    if u.codePoint.isHigh && c.isLow then CodePoint.ofPair u.codePoint c :: t else u.codePoint :: c :: t

def ofUnits (us : List CodeUnit) : Text := us.foldr consUnit []

theorem units_consUnit (u : CodeUnit) (t : Text) : (consUnit u t).units = u :: t.units := by
  have hu : u.codePoint.units = [u] := CodePoint.units_of_lt u.isLt
  cases t with
  | nil => simp [consUnit, hu]
  | cons c t =>
    by_cases h : u.codePoint.isHigh && c.isLow
    · obtain ⟨ha, hb⟩ := Bool.and_eq_true_iff.mp h
      simp [consUnit, h, CodePoint.units_ofPair ha hb, hu]
    · simp [consUnit, h, hu]

theorem units_ofUnits (us : List CodeUnit) : (ofUnits us).units = us := by
  induction us with
  | nil => rfl
  | cons u us ih => simp only [ofUnits, List.foldr_cons] at ih ⊢; rw [units_consUnit, ih]

end Text
end Bytebeat
