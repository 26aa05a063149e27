import Bytebeat.Proofs.Packing.RoundTrip

namespace Bytebeat.Packing

variable {x y : Text} {us vs : List CodeUnit}

theorem packUnits_inj (even : us.length % 2 = 0) (even' : vs.length % 2 = 0) (small : ∀ u ∈ us, u.val < 0x100)
    (small' : ∀ u ∈ vs, u.val < 0x100) : packUnits us = packUnits vs ↔ us = vs := by
  constructor
  · intro same
    rw [← flatMap_bytes_packUnits even small, same, flatMap_bytes_packUnits even' small']
  · exact congrArg packUnits

theorem encode_eq_encode_iff_packUnits (x y : Text) :
    encode x = encode y ↔ packUnits (normalize x).units = packUnits (normalize y).units := by
  constructor
  · intro same
    have payload := payload?_encode x
    rw [same, payload?_encode, Option.some.injEq] at payload
    rw [← Text.units_ofUnits (packUnits (normalize x).units), ← payload, Text.units_ofUnits]
  · intro same
    rw [encode, wrap, same]
    rfl

theorem normalize_eq_of_encode_eq (latin : ∀ c ∈ x, c.val < 0x100) (latin' : ∀ c ∈ y, c.val < 0x100)
    (same : encode x = encode y) : normalize x = normalize y := by
  have narrow {t : Text} (small : ∀ c ∈ t, c.val < 0x100) : ∀ c ∈ normalize t, c.val < 0x10000 :=
    fun c mem => Nat.lt_trans (normalize_val_lt_iff.mpr small c mem) (by decide)
  rw [encode_eq_encode_iff_packUnits, packUnits_inj (even_units_normalize x) (even_units_normalize y)
    (units_normalize_lt latin) (units_normalize_lt latin')] at same
  exact Text.eq_of_units_eq (narrow latin) (narrow latin') same

theorem encode_eq_encode_iff (latin : ∀ c ∈ x, c.val ≤ 0xFF) (latin' : ∀ c ∈ y, c.val ≤ 0xFF) :
    encode x = encode y ↔ normalize x = normalize y := by
  constructor
  · exact normalize_eq_of_encode_eq (fun c mem => Nat.lt_succ_of_le (latin c mem))
      fun c mem => Nat.lt_succ_of_le (latin' c mem)
  · intro same
    rw [encode_eq_encode_iff_packUnits, same]

theorem encode_eq_encode_iff_zeros :
    let code : Text := "\x00uØ, Ü"
    let normal : Text := "\x00uØ,Ü "
    let other : Text := "u\x00Ø,Ü "
    (∀ c ∈ code, c.val ≤ 0xFF) ∧ (∀ c ∈ normal, c.val ≤ 0xFF) ∧ (∀ c ∈ other, c.val ≤ 0xFF) ∧
    encode code = encode normal ∧ encode code ≠ encode other := by
  intro code normal other
  have latin : ∀ c ∈ code, c.val ≤ 0xFF := by decide
  have latinNormal : ∀ c ∈ normal, c.val ≤ 0xFF := by decide
  have latinOther : ∀ c ∈ other, c.val ≤ 0xFF := by decide
  refine ⟨latin, latinNormal, latinOther, ?_, ?_⟩
  · exact (encode_eq_encode_iff latin latinNormal).mpr (by decide +kernel)
  · rw [ne_eq, encode_eq_encode_iff latin latinOther]
    decide

example : encode "Āa" = encode "\x00a" := by decide +kernel

end Bytebeat.Packing
