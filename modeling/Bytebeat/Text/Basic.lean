/-!
Texts as sequences of code points.

A text may hold surrogate code points, alone or beside each other, so it is a list of numbers below `0x110000`
and not a `String`, which holds scalar values only. Literal strings stand for texts by coercion.
-/

namespace Bytebeat

/-- A Unicode code point, surrogates included. -/
structure CodePoint where
  val : Nat
  isLt : val < 0x110000
  deriving DecidableEq

namespace CodePoint

theorem ext {a b : CodePoint} (h : a.val = b.val) : a = b := by
  cases a; cases b; cases h; rfl

theorem ofChar_lt (c : Char) : c.val.toNat < 0x110000 := by
  rcases c.valid with h | ⟨_, h⟩
  · exact Nat.lt_trans h (by decide)
  · exact h

def ofChar (c : Char) : CodePoint := ⟨c.val.toNat, ofChar_lt c⟩

instance : Coe Char CodePoint := ⟨ofChar⟩

instance : Inhabited CodePoint := ⟨⟨0, by decide⟩⟩

def ofNat? (n : Nat) : Option CodePoint :=
  if h : n < 0x110000 then some ⟨n, h⟩ else none

def isHigh (c : CodePoint) : Bool := 0xD800 ≤ c.val && c.val < 0xDC00

def isLow (c : CodePoint) : Bool := 0xDC00 ≤ c.val && c.val < 0xE000

def isSurrogate (c : CodePoint) : Bool := 0xD800 ≤ c.val && c.val < 0xE000

theorem isSurrogate_eq (c : CodePoint) : c.isSurrogate = (c.isHigh || c.isLow) := by
  apply Bool.eq_iff_iff.mpr
  simp only [isSurrogate, isHigh, isLow, Bool.or_eq_true, Bool.and_eq_true, decide_eq_true_eq]
  omega

def toChar? (c : CodePoint) : Option Char :=
  if h : Nat.isValidChar c.val then some (Char.ofNatAux c.val h) else none

def isSpace (c : CodePoint) : Bool :=
  let n := c.val
  (0x9 ≤ n && n ≤ 0xD) || n == 0x20 || n == 0x85 || n == 0xA0 || n == 0x1680 || (0x2000 ≤ n && n ≤ 0x200A)
    || n == 0x2028 || n == 0x2029 || n == 0x202F || n == 0x205F || n == 0x3000

def isBlank (c : CodePoint) : Bool := c.isSpace || (0x1C ≤ c.val && c.val ≤ 0x1F)

end CodePoint

abbrev Text := List CodePoint

namespace Text

def ofString (s : String) : Text := s.toList.map CodePoint.ofChar

instance : Coe String Text := ⟨ofString⟩

def toString? (t : Text) : Option String := (t.mapM CodePoint.toChar?).map String.ofList

def ofNat (n : Nat) : Text := (Nat.toDigits 10 n).map CodePoint.ofChar

def ofInt : Int → Text
  | .ofNat n => ofNat n
  | .negSucc n => '-' :: ofNat (n + 1)

def hasSurrogate (t : Text) : Bool := t.any CodePoint.isSurrogate

def join (separator : Text) (parts : List Text) : Text := (parts.intersperse separator).flatten

def le : Text → Text → Bool
  | [], _ => true
  | _ :: _, [] => false
  | a :: s, b :: t => a.val < b.val || (a.val = b.val && le s t)

def occurrences (c : CodePoint) (t : Text) : Nat := t.foldl (fun n d => if d = c then n + 1 else n) 0

def lowerOne (c : CodePoint) : CodePoint :=
  if h : 0x41 ≤ c.val ∧ c.val ≤ 0x5A then ⟨c.val + 0x20, by omega⟩ else if c.val = 0x212A then 'k' else c

def lower (t : Text) : Text := t.map lowerOne

def dropStart? : Text → Text → Option Text
  | [], t => some t
  | _ :: _, [] => none
  | c :: s, d :: t => if c = d then dropStart? s t else none

theorem dropStart?_eq_some_iff {s t r : Text} : dropStart? s t = some r ↔ t = s ++ r := by
  induction s generalizing t with
  | nil => simp [dropStart?, eq_comm]
  | cons c s ih =>
    cases t with
    | nil => simp [dropStart?]
    | cons d t =>
      by_cases h : c = d
      · simp [dropStart?, h, ih]
      · simp [dropStart?, h, Ne.symm h]

def dropEnd? (s t : Text) : Option Text := (dropStart? s.reverse t.reverse).map List.reverse

/-! ## Trimming -/

def trimWhere (p : CodePoint → Bool) (t : Text) : Text := ((t.dropWhile p).reverse.dropWhile p).reverse

def trim (t : Text) : Text := t.trimWhere CodePoint.isBlank

def isBlank (t : Text) : Bool := t.all CodePoint.isBlank

variable {p : CodePoint → Bool}

theorem trimWhere_between {front back : Text} (ahead : ∀ c ∈ front, p c = true) (behind : ∀ c ∈ back, p c = true)
    (t : Text) : (front ++ t ++ back).trimWhere p = t.trimWhere p := by
  have kept : (front ++ t ++ back).dropWhile p = (t ++ back).dropWhile p := by
    rw [List.append_assoc, List.dropWhile_append_of_pos ahead]
  have reversed : ∀ c ∈ back.reverse, p c = true := fun c mem => behind c (List.mem_reverse.mp mem)
  rw [trimWhere, trimWhere, kept, List.dropWhile_append]
  split
  · rename_i empty
    have gone : (back ++ []).dropWhile p = [] := List.dropWhile_append_of_pos behind
    rw [List.append_nil] at gone
    rw [gone, List.isEmpty_iff.mp empty]
  · rw [List.reverse_append, List.dropWhile_append_of_pos reversed]

theorem trimWhere_append {back : Text} (behind : ∀ c ∈ back, p c = true) (t : Text) :
    (t ++ back).trimWhere p = t.trimWhere p := by
  have nothing : ∀ c ∈ ([] : Text), p c = true := nofun
  exact trimWhere_between nothing behind t

theorem exists_of_trimWhere (p : CodePoint → Bool) (t : Text) : ∃ front back : Text,
    (∀ c ∈ front, p c = true) ∧ (∀ c ∈ back, p c = true) ∧ t = front ++ t.trimWhere p ++ back := by
  refine ⟨t.takeWhile p, ((t.dropWhile p).reverse.takeWhile p).reverse, ?_, ?_, ?_⟩
  · exact List.all_eq_true.mp List.all_takeWhile
  · exact fun c mem => List.all_eq_true.mp List.all_takeWhile c (List.mem_reverse.mp mem)
  · rw [trimWhere, List.append_assoc, ← List.reverse_append, List.takeWhile_append_dropWhile, List.reverse_reverse,
      List.takeWhile_append_dropWhile]

theorem trimWhere_of_ends {t : Text} {first last : CodePoint}
    (starts : t.head? = some first) (ends : t.getLast? = some last) (keepFirst : p first = false)
    (keepLast : p last = false) : t.trimWhere p = t := by
  obtain ⟨s, front⟩ := List.head?_eq_some_iff.mp starts
  obtain ⟨r, back⟩ := List.getLast?_eq_some_iff.mp ends
  have keepFront : t.dropWhile p = t := by
    rw [front, List.dropWhile_cons_of_neg (by simp [keepFirst])]
  have keepBack : t.reverse.dropWhile p = t.reverse := by
    rw [back, List.reverse_append, List.reverse_singleton, List.singleton_append,
      List.dropWhile_cons_of_neg (by simp [keepLast])]
  rw [trimWhere, keepFront, keepBack, List.reverse_reverse]

end Text
end Bytebeat
