import Bytebeat.Proofs.Packing.Pairs
import Bytebeat.Proofs.Packing.Repack
import Bytebeat.Proofs.Text.Halves

namespace Bytebeat.Packing
open CodeUnit

def opensPair (first : CodeUnit) : Bool := 0xD8 ≤ first.val && first.val < 0xDC

def closesPair (first : CodeUnit) : Bool := 0xDC ≤ first.val && first.val < 0xE0

/-- A pair of the normal code packs to half a surrogate pair, and its neighbour does not pack to the other half. -/
def PacksToHalf (code : Text) : Prop := ∃ i, LoneAt opensPair closesPair (fun i => (normalize code).units[2 * i]?) i

theorem isHigh_eq_opensPair (u : CodeUnit) : u.codePoint.isHigh = opensPair u.highByte := by
  apply Bool.eq_iff_iff.mpr
  rw [CodePoint.isHigh_iff, val_codePoint, opensPair, val_highByte, Bool.and_eq_true, decide_eq_true_eq,
    decide_eq_true_eq]
  omega

theorem isLow_eq_closesPair (u : CodeUnit) : u.codePoint.isLow = closesPair u.highByte := by
  apply Bool.eq_iff_iff.mpr
  rw [CodePoint.isLow_iff, val_codePoint, closesPair, val_highByte, Bool.and_eq_true, decide_eq_true_eq,
    decide_eq_true_eq]
  omega

theorem getElem?_two_mul_eq {us : List CodeUnit} (even : us.length % 2 = 0) (small : ∀ u ∈ us, u.val < 0x100) (i : Nat) :
    us[2 * i]? = (packUnits us)[i]?.map highByte := by
  rw [getElem?_packUnits]
  cases first : us[2 * i]? with
  | none => rfl
  | some a =>
      obtain ⟨inside, -⟩ := List.getElem?_eq_some_iff.mp first
      have next : 2 * i + 1 < us.length := by omega
      have second := List.getElem?_eq_getElem next
      have bytes := bytes_packPair (small a (List.mem_of_getElem? first)) (small _ (List.mem_of_getElem? second))
      rw [second]
      exact congrArg some (List.cons.inj bytes).1.symm

theorem loneHalfAt_packUnits_iff {us : List CodeUnit} (even : us.length % 2 = 0) (small : ∀ u ∈ us, u.val < 0x100)
    (i : Nat) : Text.LoneHalfAt (packUnits us) i ↔ LoneAt opensPair closesPair (fun i => us[2 * i]?) i := by
  have firsts : (fun i => us[2 * i]?) = fun i => (packUnits us)[i]?.map highByte :=
    funext (getElem?_two_mul_eq even small)
  rw [firsts, loneAt_map_iff, Text.LoneHalfAt, funext isHigh_eq_opensPair, funext isLow_eq_closesPair]
  rfl

theorem hasSurrogate_encode (code : Text) :
    (encode code).hasSurrogate = (Text.ofUnits (packUnits (normalize code).units)).hasSurrogate := by
  rw [encode, wrap, render_plain]
  simp

theorem hasSurrogate_encode_iff {code : Text} (latin : ∀ c ∈ code, c.val < 0x100) :
    (encode code).hasSurrogate = true ↔ PacksToHalf code := by
  rw [hasSurrogate_encode, Text.hasSurrogate_ofUnits_iff]
  exact exists_congr (loneHalfAt_packUnits_iff (even_units_normalize code) (units_normalize_lt latin))

/-! ## Line ends -/

theorem return_not_mem_encode {code : Text} (reversible : Reversible code) : ('\r' : CodePoint) ∉ encode code := by
  rw [encode, wrap, render_plain, List.mem_append, List.mem_append]
  rintro ((front | payload) | back)
  · exact absurd front (by decide)
  · exact absurd (reversible.le_val_of_mem payload) (by decide)
  · exact absurd back (by decide)

end Bytebeat.Packing
