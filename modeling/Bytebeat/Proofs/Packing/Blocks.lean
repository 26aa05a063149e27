import Bytebeat.Proofs.Packing.Unpack
import Bytebeat.Proofs.Text.Surrogates

namespace Bytebeat.Packing
open CodePoint

def safeSigns : Text := "ABCDEFGHIJKLMNOPQRSTUVWXYZabcdefghijklmnopqrstuvwxyz0123456789@*_+-./"

def upperDigits : Text := "0123456789ABCDEF"

def named (digits : Text) : Nat := Text.valueOf 16 (digits.map upperDigits.idxOf)

inductive Block : Text → Prop where
  | sign {c : CodePoint} (safe : c ∈ safeSigns) : Block [c]
  | short {a b : CodePoint} (digits : [a, b] ⊆ upperDigits) (notSafe : ∀ c ∈ safeSigns, c.val ≠ named [a, b]) :
      Block ['%', a, b]
  | long {a b c d : CodePoint} (digits : [a, b, c, d] ⊆ upperDigits) (wide : 0x100 ≤ named [a, b, c, d]) :
      Block ['%', 'u', a, b, c, d]

def Canonical (t : Text) : Prop := ∃ blocks : List Text, (∀ block ∈ blocks, Block block) ∧ t = blocks.flatten

variable {a b c d : CodePoint}

theorem safeSigns_lt (safe : c ∈ safeSigns) : c.val < 0x80 := by
  have all : ∀ c ∈ safeSigns, c.val < 0x80 := by decide
  exact all c safe

theorem isSafe_iff {u : CodeUnit} : isSafe u = true ↔ u.codePoint ∈ safeSigns := by
  have ascii : ∀ n, (small : n < 0x80) → (isSafe ⟨n, Nat.lt_trans small (by decide)⟩ = true ↔
      (⟨n, Nat.lt_trans small (by decide)⟩ : CodePoint) ∈ safeSigns) := by decide +kernel
  constructor
  · intro safe
    have := isSafe_bounds safe
    exact (ascii u.val (by omega)).mp safe
  · intro safe
    exact (ascii u.val (safeSigns_lt safe)).mpr safe

/-! ## Digits and the numbers they name -/

theorem idxOf_ofHexDigit (n : Nat) :
    ofHexDigit 'A' n ∈ upperDigits ∧ upperDigits.idxOf (ofHexDigit 'A' n) = n % 16 := by
  have all : ∀ r < 16, ofHexDigit 'A' r ∈ upperDigits ∧ upperDigits.idxOf (ofHexDigit 'A' r) = r := by decide
  rw [← ofHexDigit_mod]
  exact all _ (Nat.mod_lt _ (by decide))

theorem ofHexDigit_of_idxOf (digit : d ∈ upperDigits) {n : Nat} (same : n % 16 = upperDigits.idxOf d) :
    ofHexDigit 'A' n = d := by
  have all : ∀ d ∈ upperDigits, ofHexDigit 'A' (upperDigits.idxOf d) = d := by decide
  rw [← ofHexDigit_mod, same, all d digit]

theorem idxOf_lt (digit : d ∈ upperDigits) : upperDigits.idxOf d < 16 := List.idxOf_lt_length_of_mem digit

theorem named_two (a b : CodePoint) : named [a, b] = 16 * upperDigits.idxOf a + upperDigits.idxOf b := by
  simp [named, Text.valueOf]

theorem named_four (a b c d : CodePoint) : named [a, b, c, d] = 0x100 * named [a, b] + named [c, d] :=
  Text.valueOf_four _ _ _ _

theorem named_lt (digits : [a, b] ⊆ upperDigits) : named [a, b] < 0x100 :=
  Text.valueOf_two_lt (idxOf_lt (digits (by simp))) (idxOf_lt (digits (by simp)))

theorem named_hex (n : Nat) : named [ofHexDigit 'A' (n / 16), ofHexDigit 'A' n] = n % 0x100 := by
  rw [named_two, (idxOf_ofHexDigit _).2, (idxOf_ofHexDigit _).2]
  omega

theorem hex_named (digits : [a, b] ⊆ upperDigits) {n : Nat} (same : n % 0x100 = named [a, b]) :
    ofHexDigit 'A' (n / 16) = a ∧ ofHexDigit 'A' n = b := by
  have high : a ∈ upperDigits := digits (by simp)
  have low : b ∈ upperDigits := digits (by simp)
  have := idxOf_lt high
  have := idxOf_lt low
  rw [named_two] at same
  exact ⟨ofHexDigit_of_idxOf high (by omega), ofHexDigit_of_idxOf low (by omega)⟩

/-! ## Blocks and units -/

theorem block_escapeUnit (u : CodeUnit) : Block (escapeUnit u) := by
  have bound := u.isLt
  obtain ⟨safe, eq⟩ | ⟨byte, notSafe, eq⟩ | ⟨wide, eq⟩ := escapeUnit_cases u
  · rw [eq]
    exact .sign (isSafe_iff.mp safe)
  · rw [eq, shortSequence_eq]
    refine .short (by simp [idxOf_ofHexDigit]) ?_
    intro c safe same
    rw [named_hex] at same
    have isUnit : u.codePoint = c := CodePoint.ext (by rw [CodeUnit.val_codePoint]; omega)
    rw [← isUnit, ← isSafe_iff, notSafe] at safe
    cases safe
  · rw [eq, longSequence_eq]
    refine .long (by simp [idxOf_ofHexDigit]) ?_
    rw [named_four, named_hex, named_hex]
    omega

theorem exists_of_block {block : Text} (isBlock : Block block) : ∃ u, escapeUnit u = block := by
  cases isBlock with
  | @sign c safe =>
      have isSafe : isSafe ⟨c.val, Nat.lt_trans (safeSigns_lt safe) (by decide)⟩ = true := isSafe_iff.mpr safe
      exact ⟨_, if_pos isSafe⟩
  | @short a b digits notSafe =>
      have byte := named_lt digits
      obtain ⟨u, value⟩ : ∃ u : CodeUnit, u.val = named [a, b] := ⟨⟨named [a, b], by omega⟩, rfl⟩
      obtain ⟨isHigh, isLow⟩ := hex_named digits (n := u.val) (by omega)
      refine ⟨u, ?_⟩
      obtain ⟨safe, -⟩ | ⟨-, -, eq⟩ | ⟨wide, -⟩ := escapeUnit_cases u
      · exact absurd value (notSafe _ (isSafe_iff.mp safe))
      · rw [eq, shortSequence_eq, isHigh, isLow]
      · omega
  | @long a b c d digits wide =>
      have first : [a, b] ⊆ upperDigits := List.Subset.trans (by simp) digits
      have second : [c, d] ⊆ upperDigits := List.Subset.trans (by simp) digits
      have high := named_lt first
      have low := named_lt second
      have both := named_four a b c d
      obtain ⟨u, value⟩ : ∃ u : CodeUnit, u.val = named [a, b, c, d] := ⟨⟨named [a, b, c, d], by omega⟩, rfl⟩
      obtain ⟨isFirst, isSecond⟩ := hex_named first (n := u.val / 0x100) (by omega)
      obtain ⟨isThird, isFourth⟩ := hex_named second (n := u.val) (by omega)
      refine ⟨u, ?_⟩
      obtain ⟨safe, -⟩ | ⟨byte, -⟩ | ⟨-, eq⟩ := escapeUnit_cases u
      · have := (isSafe_bounds safe).2
        omega
      · omega
      · rw [eq, longSequence_eq, isFirst, isSecond, isThird, isFourth]

theorem canonical_iff {t : Text} : Canonical t ↔ ∃ us, t = escapeUnits us := by
  constructor
  · rintro ⟨blocks, all, rfl⟩
    induction blocks with
    | nil => exact ⟨[], rfl⟩
    | cons block blocks ih =>
        rw [List.forall_mem_cons] at all
        obtain ⟨u, rfl⟩ := exists_of_block all.1
        obtain ⟨us, rest⟩ := ih all.2
        exact ⟨u :: us, by rw [List.flatten_cons, rest, escapeUnits_cons]⟩
  · rintro ⟨us, rfl⟩
    exact ⟨us.map escapeUnit, List.forall_mem_map.mpr fun u _ => block_escapeUnit u, rfl⟩

/-! ## Unescaping blocks -/

theorem unescapeUnits_escapeUnit (u : CodeUnit) (t : Text) :
    unescapeUnits (Text.units (escapeUnit u ++ t)) = u :: unescapeUnits t.units := by
  obtain ⟨safe, eq⟩ | ⟨byte, -, eq⟩ | ⟨-, eq⟩ := escapeUnit_cases u
  · have bounds := isSafe_bounds safe
    rw [eq, List.singleton_append, Text.units_cons, CodeUnit.units_codePoint, List.singleton_append,
      unescapeUnits_of_ne (by omega)]
  · rw [eq, unescapeUnits_shortSequence, Nat.mod_eq_of_lt byte, CodeUnit.ofNat_val]
  · rw [eq, unescapeUnits_longSequence, CodeUnit.ofNat_val]

theorem unescapeUnits_escapeUnits (us : List CodeUnit) : unescapeUnits (escapeUnits us).units = us := by
  induction us with
  | nil => rfl
  | cons u us ih => rw [escapeUnits_cons, unescapeUnits_escapeUnit, ih]

/-- Unescaping gives back the units that were escaped, and escaping the canonical text that was unescaped. -/
theorem escape_unescape_inverse :
    (∀ t, (unescape (escape t)).units = t.units ∧ (unescape (escape t) = t ↔ ¬ t.SplitPair)) ∧
    (∀ t, Canonical (escape t)) ∧
    ∀ t, Canonical t → escape (unescape t) = t := by
  refine ⟨fun t => ?_, fun t => canonical_iff.mpr ⟨t.units, rfl⟩, fun t canonical => ?_⟩
  · rw [unescape, escape, unescapeUnits_escapeUnits]
    exact ⟨Text.units_ofUnits _, Text.ofUnits_units_eq_self_iff⟩
  · obtain ⟨us, rfl⟩ := canonical_iff.mp canonical
    rw [escape, unescape, unescapeUnits_escapeUnits, Text.units_ofUnits]

theorem escape_unescape_inverse_percent :
    Canonical "%25u0041%uD834%uDD1E%uD834/%20" ∧
    escape (unescape "%25u0041%uD834%uDD1E%uD834/%20") = "%25u0041%uD834%uDD1E%uD834/%20" := by
  have canonical : Canonical "%25u0041%uD834%uDD1E%uD834/%20" := by
    refine ⟨["%25", "u", "0", "0", "4", "1", "%uD834", "%uDD1E", "%uD834", "/", "%20"], ?_, rfl⟩
    simp only [List.forall_mem_cons]
    exact ⟨.short (by decide) (by decide), .sign (by decide), .sign (by decide), .sign (by decide), .sign (by decide),
      .sign (by decide), .long (by decide) (by decide), .long (by decide) (by decide), .long (by decide) (by decide),
      .sign (by decide), .short (by decide) (by decide), nofun⟩
  exact ⟨canonical, escape_unescape_inverse.2.2 _ canonical⟩

end Bytebeat.Packing
