import Bytebeat.Packing.Escape
import Bytebeat.Proofs.Text.Units

namespace Bytebeat
namespace CodePoint

theorem ofHexDigit_mod (letter : Char) (d : Nat) : ofHexDigit letter (d % 16) = ofHexDigit letter d := by
  simp only [ofHexDigit, Nat.mod_mod]

theorem hexDigit?_ofHexDigit (d : Nat) : (ofHexDigit 'A' d).hexDigit? = some (d % 16) := by
  have digits : ∀ r < 16, (ofHexDigit 'A' r).hexDigit? = some r := by decide
  rw [← ofHexDigit_mod]
  exact digits _ (Nat.mod_lt _ (by decide))

theorem ofHexDigit_bounds (d : Nat) : 0x30 ≤ (ofHexDigit 'A' d).val ∧ (ofHexDigit 'A' d).val ≤ 0x46 := by
  have bounds : ∀ r < 16, 0x30 ≤ (ofHexDigit 'A' r).val ∧ (ofHexDigit 'A' r).val ≤ 0x46 := by decide
  rw [← ofHexDigit_mod]
  exact bounds _ (Nat.mod_lt _ (by decide))

theorem ofHexDigit_lt (d : Nat) : (ofHexDigit 'A' d).val < 0x10000 := by
  have := ofHexDigit_bounds d
  omega

theorem ofHexDigit_ne_u (d : Nat) : ofHexDigit 'A' d ≠ 'u' := by
  intro equal
  have high := (ofHexDigit_bounds d).2
  rw [equal] at high
  exact absurd high (by decide)

end CodePoint

namespace Text

theorem valueOf_two_lt {a b : Nat} (high : a < 16) (low : b < 16) : valueOf 16 [a, b] < 0x100 := by
  simp only [valueOf, List.foldl_cons, List.foldl_nil]
  omega

theorem valueOf_four (a b c d : Nat) : valueOf 16 [a, b, c, d] = 0x100 * valueOf 16 [a, b] + valueOf 16 [c, d] := by
  simp only [valueOf, List.foldl_cons, List.foldl_nil]
  omega

end Text

namespace Packing
open CodePoint

def shortSequence (n : Nat) : Text := '%' :: Text.hex 'A' 2 n

def longSequence (n : Nat) : Text := '%' :: 'u' :: Text.hex 'A' 4 n

theorem shortSequence_eq (n : Nat) :
    shortSequence n = ('%' : CodePoint) :: [ofHexDigit 'A' (n / 16), ofHexDigit 'A' n] := rfl

theorem longSequence_eq (n : Nat) : longSequence n =
    ('%' : CodePoint) :: 'u' :: [ofHexDigit 'A' (n / 0x100 / 16), ofHexDigit 'A' (n / 0x100),
      ofHexDigit 'A' (n / 16), ofHexDigit 'A' n] := by
  simp [longSequence, Text.hex, Nat.div_div_eq_div_mul]

theorem isSafe_bounds {u : CodeUnit} (safe : isSafe u = true) : 0x2A ≤ u.val ∧ u.val ≤ 0x7A := by
  simp only [isSafe, Bool.or_eq_true, Bool.and_eq_true, decide_eq_true_eq, beq_iff_eq] at safe
  omega

theorem escapeUnit_cases (u : CodeUnit) :
    (isSafe u = true ∧ escapeUnit u = [u.codePoint]) ∨
    (u.val < 0x100 ∧ isSafe u = false ∧ escapeUnit u = shortSequence u.val) ∨
    (0x100 ≤ u.val ∧ escapeUnit u = longSequence u.val) := by
  by_cases safe : isSafe u = true
  · exact .inl ⟨safe, by rw [escapeUnit, if_pos safe]⟩
  · by_cases byte : u.val < 0x100
    · exact .inr (.inl ⟨byte, by simpa using safe, by rw [escapeUnit, if_neg safe, if_pos byte]; rfl⟩)
    · exact .inr (.inr ⟨by omega, by rw [escapeUnit, if_neg safe, if_neg byte]; rfl⟩)

theorem escapeUnit_bounds {u : CodeUnit} {c : CodePoint} (mem : c ∈ escapeUnit u) : 0x25 ≤ c.val ∧ c.val < 0x80 := by
  have percent : 0x25 ≤ ('%' : CodePoint).val ∧ ('%' : CodePoint).val < 0x80 := by decide
  have letter : 0x25 ≤ ('u' : CodePoint).val ∧ ('u' : CodePoint).val < 0x80 := by decide
  have digit (d : Nat) : 0x25 ≤ (ofHexDigit 'A' d).val ∧ (ofHexDigit 'A' d).val < 0x80 := by
    have := ofHexDigit_bounds d
    omega
  obtain ⟨safe, eq⟩ | ⟨-, -, eq⟩ | ⟨-, eq⟩ := escapeUnit_cases u
  · rw [eq, List.mem_singleton] at mem
    have := isSafe_bounds safe
    rw [mem, CodeUnit.val_codePoint]
    omega
  · simp only [eq, shortSequence_eq, List.mem_cons, List.not_mem_nil, or_false] at mem
    rcases mem with rfl | rfl | rfl
    · exact percent
    · exact digit _
    · exact digit _
  · simp only [eq, longSequence_eq, List.mem_cons, List.not_mem_nil, or_false] at mem
    rcases mem with rfl | rfl | rfl | rfl | rfl | rfl
    · exact percent
    · exact letter
    all_goals exact digit _

theorem escapeUnits_bounds {us : List CodeUnit} {c : CodePoint} (mem : c ∈ escapeUnits us) :
    0x25 ≤ c.val ∧ c.val < 0x80 := by
  obtain ⟨u, -, memUnit⟩ := List.mem_flatMap.mp mem
  exact escapeUnit_bounds memUnit

/-! ## Unescaping a block -/

theorem unescapeUnits_of_ne {u : CodeUnit} (plain : u.val ≠ 0x25) (rest : List CodeUnit) :
    unescapeUnits (u :: rest) = u :: unescapeUnits rest := by
  rw [unescapeUnits_cons, decodeAt, if_neg plain]
  rfl

theorem units_cons_of_lt {c : CodePoint} (narrow : c.val < 0x10000) (t : Text) :
    Text.units (c :: t) = ⟨c.val, narrow⟩ :: t.units := by
  rw [Text.units_cons, units_of_lt narrow, List.singleton_append]

theorem hexByte?_hex (n : Nat) (high : (ofHexDigit 'A' (n / 16)).val < 0x10000)
    (low : (ofHexDigit 'A' n).val < 0x10000) :
    hexByte? ⟨(ofHexDigit 'A' (n / 16)).val, high⟩ ⟨(ofHexDigit 'A' n).val, low⟩ = some (.ofNat (n % 0x100)) := by
  have highDigit := hexDigit?_ofHexDigit (n / 16)
  have lowDigit := hexDigit?_ofHexDigit n
  have value : 16 * (n / 16 % 16) + n % 16 = n % 0x100 := by omega
  simp only [hexByte?, CodeUnit.codePoint, highDigit, lowDigit, Option.bind_eq_bind, Option.bind_some, value]
  rfl

theorem unescapeUnits_shortSequence (n : Nat) (t : Text) :
    unescapeUnits (Text.units (shortSequence n ++ t)) = .ofNat (n % 0x100) :: unescapeUnits t.units := by
  rw [shortSequence_eq, List.cons_append, List.cons_append, List.cons_append, List.nil_append,
    units_cons_of_lt (by decide), units_cons_of_lt (ofHexDigit_lt _), units_cons_of_lt (ofHexDigit_lt _),
    unescapeUnits_cons]
  -- A digit is no `u`, so the longer form of a sequence is out of the question.
  have notLong (rest : List CodeUnit) :
      longSequence? (⟨(ofHexDigit 'A' (n / 16)).val, ofHexDigit_lt _⟩ :: rest) = none := by
    have notU : ¬ (ofHexDigit 'A' (n / 16)).val = 0x75 := by
      have := ofHexDigit_bounds (n / 16)
      omega
    unfold longSequence?
    split
    · rename_i equal
      obtain ⟨rfl, -⟩ := List.cons.inj equal
      rw [if_neg notU]
    · rfl
  have decoded : decodeAt ⟨('%' : CodePoint).val, by decide⟩ (⟨(ofHexDigit 'A' (n / 16)).val, ofHexDigit_lt _⟩ ::
      ⟨(ofHexDigit 'A' n).val, ofHexDigit_lt _⟩ :: t.units) = (.ofNat (n % 0x100), 2) := by
    rw [decodeAt, if_pos (by decide), notLong, shortSequence?, hexByte?_hex]
  rw [decoded]
  rfl

theorem hexWord?_hex (n : Nat) :
    hexWord? ⟨(ofHexDigit 'A' (n / 0x100 / 16)).val, ofHexDigit_lt _⟩ ⟨(ofHexDigit 'A' (n / 0x100)).val, ofHexDigit_lt _⟩
      ⟨(ofHexDigit 'A' (n / 16)).val, ofHexDigit_lt _⟩ ⟨(ofHexDigit 'A' n).val, ofHexDigit_lt _⟩ = some (.ofNat n) := by
  have high : (CodeUnit.ofNat (n / 0x100 % 0x100)).val = n / 0x100 % 0x100 := CodeUnit.ofNat_of_lt (by omega)
  have low : (CodeUnit.ofNat (n % 0x100)).val = n % 0x100 := CodeUnit.ofNat_of_lt (by omega)
  have value : CodeUnit.ofNat (256 * (n / 0x100 % 0x100) + n % 0x100) = .ofNat n := by
    apply CodeUnit.ext
    simp only [CodeUnit.ofNat]
    omega
  simp only [hexWord?, hexByte?_hex, Option.bind_eq_bind, Option.bind_some, high, low, value]
  rfl

theorem unescapeUnits_longSequence (n : Nat) (t : Text) :
    unescapeUnits (Text.units (longSequence n ++ t)) = .ofNat n :: unescapeUnits t.units := by
  rw [longSequence_eq, List.cons_append, List.cons_append, List.cons_append, List.cons_append, List.cons_append,
    List.cons_append, List.nil_append, units_cons_of_lt (by decide), units_cons_of_lt (by decide),
    units_cons_of_lt (ofHexDigit_lt _), units_cons_of_lt (ofHexDigit_lt _), units_cons_of_lt (ofHexDigit_lt _),
    units_cons_of_lt (ofHexDigit_lt _), unescapeUnits_cons, decodeAt, if_pos (by decide), longSequence?,
    if_pos (by decide), hexWord?_hex]
  rfl

end Packing
end Bytebeat
