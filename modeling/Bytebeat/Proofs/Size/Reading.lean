import Mathlib.Algebra.Order.Field.Rat
import Mathlib.Data.List.Nodup
import Mathlib.Data.List.TakeWhile
import Mathlib.Tactic.FieldSimp
import Mathlib.Tactic.Ring
import Bytebeat.Size.Label

namespace Bytebeat

/-! ## Numerals -/

namespace CodePoint

def isPoint (c : CodePoint) : Bool := c = '.'

def isNumeral (c : CodePoint) : Bool := c.asciiDigit?.isSome || c.isPoint

def isSeparator (c : CodePoint) : Bool := c = '/' || c = ' ' || c = '(' || c = ')'

variable {c : CodePoint}

theorem isPoint_of_digit (digit : c.asciiDigit?.isSome = true) : c.isPoint = false := by
  apply Bool.eq_false_iff.mpr
  intro point
  rw [of_decide_eq_true point] at digit
  cases digit

theorem isNumeral_of_digit (digit : c.asciiDigit?.isSome = true) : c.isNumeral = true := by
  rw [isNumeral, digit, Bool.true_or]

theorem isSeparator_of_numeral (numeral : c.isNumeral = true) : c.isSeparator = false := by
  apply Bool.eq_false_iff.mpr
  intro separator
  simp only [isSeparator, Bool.or_eq_true, decide_eq_true_eq] at separator
  rcases separator with ((rfl | rfl) | rfl) | rfl <;> cases numeral

theorem asciiDigit?_ofChar {c : Char} (digit : c.isDigit = true) :
    (ofChar c).asciiDigit? = some (c.toNat - '0'.toNat) := by
  simp only [Char.isDigit, Bool.and_eq_true, decide_eq_true_eq] at digit
  have inRange : 0x30 ≤ (ofChar c).val ∧ (ofChar c).val ≤ 0x39 := digit
  rw [asciiDigit?, if_pos (by simpa using inRange)]
  rfl

end CodePoint

namespace Text

def spelled? (n : ℕ) (t : Text) : Option ℕ := t.foldlM (fun n c => c.asciiDigit?.map (10 * n + ·)) n

def number? (t : Text) : Option ℚ :=
  let whole := t.takeWhile (!·.isPoint)
  let places := (t.dropWhile (!·.isPoint)).drop 1
  (spelled? 0 (whole ++ places)).map fun n : ℕ => (n : ℚ) / 10 ^ places.length

variable {s t : Text} {n d : ℕ}

theorem spelled?_append : spelled? n (s ++ t) = (spelled? n s).bind (spelled? · t) := List.foldlM_append

theorem spelled?_map_ofChar {l : List Char} (digits : ∀ c ∈ l, c.isDigit = true) :
    spelled? n (l.map CodePoint.ofChar) = some (Nat.ofDigitChars 10 l n) := by
  induction l generalizing n with
  | nil => rfl
  | cons c l ih =>
      have first := CodePoint.asciiDigit?_ofChar (digits c List.mem_cons_self)
      have rest := @ih (10 * n + (c.toNat - '0'.toNat)) fun d mem => digits d (List.mem_cons_of_mem c mem)
      rw [List.map_cons, spelled?, List.foldlM_cons, first]
      exact rest

theorem isDigit_of_mem_toDigits {c : Char} (mem : c ∈ Nat.toDigits 10 n) : c.isDigit = true :=
  Nat.isDigit_of_mem_toDigits (by decide) (by decide) mem

theorem digit_of_mem_ofNat {c : CodePoint} (mem : c ∈ ofNat n) : c.asciiDigit?.isSome = true := by
  obtain ⟨digit, inDigits, rfl⟩ := List.mem_map.mp mem
  rw [CodePoint.asciiDigit?_ofChar (isDigit_of_mem_toDigits inDigits)]
  rfl

theorem numeral_of_mem_ofNat {c : CodePoint} (mem : c ∈ ofNat n) : c.isNumeral = true :=
  CodePoint.isNumeral_of_digit (digit_of_mem_ofNat mem)

theorem not_isPoint_of_mem_ofNat {c : CodePoint} (mem : c ∈ ofNat n) : (!c.isPoint) = true := by
  rw [CodePoint.isPoint_of_digit (digit_of_mem_ofNat mem)]
  rfl

theorem spelled?_ofNat (k : ℕ) : spelled? 0 (ofNat k) = some k := by
  rw [ofNat, spelled?_map_ofChar fun _ mem => isDigit_of_mem_toDigits mem,
    Nat.ofDigitChars_toDigits (by decide) (by decide)]

theorem spelled?_digit (small : d < 10) : spelled? n (ofNat d) = some (10 * n + d) := by
  rw [ofNat, spelled?_map_ofChar fun _ mem => isDigit_of_mem_toDigits mem, Nat.toDigits_of_lt_base small,
    Nat.ofDigitChars_eq_foldl, List.foldl_cons, List.foldl_nil, Nat.toNat_digitChar_of_lt_ten small]
  simp

theorem length_digit (small : d < 10) : (ofNat d).length = 1 := by
  rw [ofNat, List.length_map, Nat.toDigits_of_lt_base small, List.length_singleton]

theorem number?_ofNat (n : ℕ) : number? (ofNat n) = some (n : ℚ) := by
  have digits : ∀ c ∈ ofNat n, (!c.isPoint) = true := fun _ => not_isPoint_of_mem_ofNat
  rw [number?, List.takeWhile_eq_self_iff.mpr digits, List.dropWhile_eq_nil_iff.mpr digits]
  simp [spelled?_ofNat]

end Text

namespace Size
open Text

theorem number?_hundredths (n : ℕ) : number? (hundredths n) = some ((n : ℚ) / 100) := by
  have digits : ∀ c ∈ ofNat (n / 100), (!c.isPoint) = true := fun _ => not_isPoint_of_mem_ofNat
  have tens : n / 10 % 10 < 10 := Nat.mod_lt _ (by decide)
  have ones : n % 10 < 10 := Nat.mod_lt _ (by decide)
  have whole : (hundredths n).takeWhile (!·.isPoint) = ofNat (n / 100) := by
    rw [hundredths, List.append_assoc, List.append_assoc, List.takeWhile_append_of_pos digits]
    exact List.append_nil _
  have places : ((hundredths n).dropWhile (!·.isPoint)).drop 1 = ofNat (n / 10 % 10) ++ ofNat (n % 10) := by
    rw [hundredths, List.append_assoc, List.append_assoc, List.dropWhile_append_of_pos digits]
    rfl
  have parts : 10 * (10 * (n / 100) + n / 10 % 10) + n % 10 = n := by omega
  rw [number?, whole, places]
  simp only [spelled?_append, spelled?_ofNat, spelled?_digit tens, spelled?_digit ones, Option.bind_some, parts,
    List.length_append, length_digit tens, length_digit ones]
  norm_num

/-! ## Renditions -/

def Scale.amount? (scale : Scale) (t : Text) : Option ℚ := do
  let number ← number? (t.takeWhile CodePoint.isNumeral)
  let power ← scale.units.idxOf? (t.dropWhile CodePoint.isNumeral)
  return number * scale.base ^ power

variable {scale : Scale} {t : Text} {x : ℚ} {n p : ℕ}

structure Scale.Legible (scale : Scale) : Prop where
  distinct : scale.units.Nodup
  letters : ∀ name ∈ scale.units, ∀ c ∈ name, c.isNumeral = false ∧ c.isSeparator = false

theorem binary_legible : binary.Legible := ⟨by decide, by decide⟩

theorem decimal_legible : decimal.Legible := ⟨by decide, by decide⟩

theorem hundredths_ne_nil (n : ℕ) : hundredths n ≠ [] := by
  simp [hundredths, ofNat]

theorem numeral_of_mem_hundredths {c : CodePoint} (mem : c ∈ hundredths n) : c.isNumeral = true := by
  simp only [hundredths, List.mem_append] at mem
  rcases mem with ((mem | mem) | mem) | mem
  · exact numeral_of_mem_ofNat mem
  · cases List.mem_singleton.mp mem
    rfl
  · exact numeral_of_mem_ofNat mem
  · exact numeral_of_mem_ofNat mem

theorem Scale.amount?_append (legible : scale.Legible) (numerals : ∀ c ∈ t, c.isNumeral = true)
    (number : number? t = some x) (short : p < scale.units.length) :
    scale.amount? (t ++ scale.units.getD p []) = some (x * (scale.base : ℚ) ^ p) := by
  have letters := legible.letters _ (List.getElem_mem short)
  have apart (some : 0 < scale.units[p].length) : ¬ scale.units[p][0].isNumeral = true :=
    Bool.eq_false_iff.mp (letters _ (List.getElem_mem some)).1
  have place : scale.units.idxOf? scale.units[p] = some p := by
    rw [List.idxOf?_eq_some_iff]
    refine ⟨short, rfl, fun j before same => ?_⟩
    have := legible.distinct.getElem_inj_iff.mp same
    omega
  rw [← List.getElem_eq_getD (h := short), amount?, List.takeWhile_append_of_pos numerals,
    List.dropWhile_append_of_pos numerals, List.takeWhile_eq_nil_iff.mpr apart,
    List.dropWhile_eq_self_iff.mpr apart, List.append_nil, number, place]
  rfl

theorem Scale.amount?_hundredths (legible : scale.Legible) (short : p < scale.units.length) (n : ℕ) :
    scale.amount? (hundredths n ++ scale.units.getD p []) = some ((n : ℚ) / 100 * (scale.base : ℚ) ^ p) :=
  amount?_append legible (fun _ => numeral_of_mem_hundredths) (number?_hundredths n) short

theorem Scale.amount?_ofNat (legible : scale.Legible) (short : 0 < scale.units.length) (n : ℕ) :
    scale.amount? (ofNat n ++ scale.units.getD 0 []) = some (n : ℚ) := by
  rw [amount?_append legible (fun _ => numeral_of_mem_ofNat) (number?_ofNat n) short, pow_zero, mul_one]

/-! ## Labels -/

def renditions (label : Text) : List Text := (label.splitOnP CodePoint.isSeparator).filter (!·.isEmpty)

theorem renditions_append_cons (s t : Text) {c : CodePoint} (separator : c.isSeparator = true) :
    renditions (s ++ c :: t) = renditions s ++ renditions t := by
  rw [renditions, List.splitOnP_append_cons s t separator, List.filter_append]
  rfl

theorem renditions_append (s t : Text) {between : Text} (some : between ≠ [])
    (separators : ∀ c ∈ between, c.isSeparator = true) :
    renditions (s ++ between ++ t) = renditions s ++ renditions t := by
  induction between generalizing s with
  | nil => exact absurd rfl some
  | cons c between ih =>
      rw [List.append_assoc, List.cons_append, renditions_append_cons s _ (separators c List.mem_cons_self)]
      by_cases last : between = []
      · rw [last, List.nil_append]
      · have rest := ih [] last fun d mem => separators d (List.mem_cons_of_mem c mem)
        exact congrArg (renditions s ++ ·) rest

theorem Scale.Legible.renditions_eq (legible : scale.Legible) (short : p < scale.units.length) (some : t ≠ [])
    (numerals : ∀ c ∈ t, c.isNumeral = true) :
    renditions (t ++ scale.units.getD p []) = [t ++ scale.units.getD p []] := by
  have free : ∀ c ∈ t ++ scale.units.getD p [], c.isSeparator = false := by
    intro c mem
    rw [← List.getElem_eq_getD (h := short)] at mem
    rcases List.mem_append.mp mem with number | name
    · exact CodePoint.isSeparator_of_numeral (numerals c number)
    · exact (legible.letters _ (List.getElem_mem short) c name).2
  rw [renditions, List.splitOnP_eq_singleton free]
  simp [some]

theorem renditions_label {b d : Text} (first : renditions b = [b]) (second : renditions d = [d]) (compact : Bool) :
    renditions (if compact then b ++ "/" ++ d else b ++ " (" ++ d ++ ")") = [b, d] := by
  cases compact with
  | true =>
      calc renditions (b ++ "/" ++ d)
          = renditions b ++ renditions d := renditions_append b d (by decide) (by decide)
        _ = [b, d] := by rw [first, second]; rfl
  | false =>
      calc renditions (b ++ " (" ++ d ++ ")")
          = renditions (b ++ " (" ++ d) ++ renditions [] := renditions_append_cons _ [] rfl
        _ = renditions b ++ renditions d ++ renditions [] := by rw [renditions_append b d (by decide) (by decide)]
        _ = [b, d] := by rw [first, second]; rfl

def binaryValue? (label : Text) : Option ℚ := (renditions label).head?.bind binary.amount?

def decimalValue? (label : Text) : Option ℚ := (renditions label).getLast?.bind decimal.amount?

end Size
end Bytebeat
