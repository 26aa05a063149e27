import Bytebeat.Text.Units

namespace Bytebeat
namespace CodeUnit

@[simp] theorem val_codePoint (u : CodeUnit) : u.codePoint.val = u.val := rfl

theorem units_codePoint (u : CodeUnit) : u.codePoint.units = [u] := CodePoint.units_of_lt u.isLt

theorem ofNat_of_lt {n : Nat} (small : n < 0x10000) : (ofNat n).val = n := Nat.mod_eq_of_lt small

theorem ofNat_val (u : CodeUnit) : ofNat u.val = u := ext (ofNat_of_lt u.isLt)

end CodeUnit

namespace Text

theorem units_map_codePoint (us : List CodeUnit) : units (us.map CodeUnit.codePoint) = us := by
  induction us with
  | nil => rfl
  | cons u us ih => rw [List.map_cons, units_cons, ih, CodeUnit.units_codePoint, List.singleton_append]

theorem map_codePoint_units {t : Text} (narrow : ∀ c ∈ t, c.val < 0x10000) :
    t.units.map CodeUnit.codePoint = t := by
  induction t with
  | nil => rfl
  | cons c t ih =>
      rw [units_cons, CodePoint.units_of_lt (narrow c (by simp)), List.singleton_append, List.map_cons,
        ih fun d mem => narrow d (by simp [mem])]
      rfl

theorem eq_of_units_eq {s t : Text} (narrow : ∀ c ∈ s, c.val < 0x10000) (narrow' : ∀ c ∈ t, c.val < 0x10000)
    (same : s.units = t.units) : s = t := by
  rw [← map_codePoint_units narrow, same, map_codePoint_units narrow']

theorem ofUnits_of_no_high {us : List CodeUnit} (noHigh : ∀ u ∈ us, u.codePoint.isHigh = false) :
    ofUnits us = us.map CodeUnit.codePoint := by
  induction us with
  | nil => rfl
  | cons u us ih =>
      have rest := ih fun v mem => noHigh v (by simp [mem])
      rw [ofUnits, List.foldr_cons, ← ofUnits, rest, List.map_cons]
      cases us <;> simp [consUnit, noHigh u (by simp)]

theorem ofUnits_of_bytes {us : List CodeUnit} (bytes : ∀ u ∈ us, u.val < 0x100) :
    ofUnits us = us.map CodeUnit.codePoint := by
  apply ofUnits_of_no_high
  intro u mem
  have byte : u.codePoint.val < 0x100 := bytes u mem
  rw [Bool.eq_false_iff]
  simp only [CodePoint.isHigh, ne_eq, Bool.and_eq_true, decide_eq_true_eq]
  omega

theorem eq_append_of_units {t : Text} (narrow : ∀ c ∈ t, c.val < 0x10000) {us vs : List CodeUnit}
    (split : t.units = us ++ vs) : t = us.map CodeUnit.codePoint ++ vs.map CodeUnit.codePoint := by
  rw [← List.map_append, ← split, map_codePoint_units narrow]

theorem val_lt_of_mem_units {t : Text} {bound : Nat} (le : bound ≤ 0x10000) (small : ∀ c ∈ t, c.val < bound)
    {u : CodeUnit} (mem : u ∈ t.units) : u.val < bound := by
  have narrow : ∀ c ∈ t, c.val < 0x10000 := fun c h => Nat.lt_of_lt_of_le (small c h) le
  have := List.mem_map_of_mem (f := CodeUnit.codePoint) mem
  rw [map_codePoint_units narrow] at this
  exact small _ this

theorem le_val_of_mem {t : Text} {bound : Nat} (le : bound ≤ 0x10000) (wide : ∀ u ∈ t.units, bound ≤ u.val)
    {c : CodePoint} (mem : c ∈ t) : bound ≤ c.val := by
  by_cases narrow : c.val < 0x10000
  · have unit : (⟨c.val, narrow⟩ : CodeUnit) ∈ c.units := CodePoint.units_of_lt narrow ▸ List.mem_cons_self
    exact wide _ (List.mem_flatMap.mpr ⟨c, mem, unit⟩)
  · omega

end Text
end Bytebeat
