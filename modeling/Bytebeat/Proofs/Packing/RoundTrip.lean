import Bytebeat.Proofs.Packing.Collapse
import Bytebeat.Proofs.Packing.Unpack

/-!
When packing loses nothing: exactly if the code is made of bytes and none of its pairs begins with a zero.

A pair that begins with a zero packs to a unit below `0x100`, which unpacks to less than the pair. What comes after it
cannot make up for that: nothing but a zero unit unpacks to something that begins with a zero, so the output lags
behind by one more zero with each further pair until the code ends.
-/

namespace Bytebeat
namespace CodeUnit

def bytes (u : CodeUnit) : List CodeUnit := [u.highByte, u.lowByte]

end CodeUnit

namespace Packing

def zeroUnit : CodeUnit := .ofNat 0

theorem val_zeroUnit : zeroUnit.val = 0 := rfl

/-! ## Pairs -/

theorem val_packPair {a b : CodeUnit} (high : a.val < 0x100) (low : b.val < 0x100) :
    (packPair a b).val = 0x100 * a.val + b.val := by
  have merged : (a.val <<< 8) ||| b.val = 0x100 * a.val + b.val := by
    rw [← Nat.shiftLeft_add_eq_or_of_lt (by omega), Nat.shiftLeft_eq]
    omega
  rw [packPair, merged, CodeUnit.ofNat_of_lt (by omega)]

theorem bytes_packPair {a b : CodeUnit} (high : a.val < 0x100) (low : b.val < 0x100) :
    (packPair a b).bytes = [a, b] := by
  have value := val_packPair high low
  have first : (packPair a b).highByte = a := by
    apply CodeUnit.ext
    rw [CodeUnit.val_highByte]
    omega
  have second : (packPair a b).lowByte = b := by
    apply CodeUnit.ext
    rw [CodeUnit.val_lowByte]
    omega
  rw [CodeUnit.bytes, first, second]

theorem pair_induct {motive : List CodeUnit → Prop} (nil : motive []) (single : ∀ a, motive [a])
    (pair : ∀ a b rest, motive rest → motive (a :: b :: rest)) : ∀ us, motive us
  | [] => nil
  | [a] => single a
  | a :: b :: rest => pair a b rest (pair_induct nil single pair rest)

theorem even_of_pair {a b : CodeUnit} {rest : List CodeUnit} (even : (a :: b :: rest).length % 2 = 0) :
    rest.length % 2 = 0 := by
  simp only [List.length_cons] at even
  omega

theorem flatMap_bytes_packUnits {us : List CodeUnit} (even : us.length % 2 = 0) (small : ∀ u ∈ us, u.val < 0x100) :
    (packUnits us).flatMap CodeUnit.bytes = us := by
  induction us using pair_induct with
  | nil => rfl
  | single a => exact absurd even (by simp)
  | pair a b rest ih =>
      rw [packUnits_cons, List.flatMap_cons, bytes_packPair (small a (by simp)) (small b (by simp)),
        ih (even_of_pair even) fun u mem => small u (by simp [mem])]
      rfl

theorem wide_packUnits_iff {us : List CodeUnit} (even : us.length % 2 = 0) (small : ∀ u ∈ us, u.val < 0x100) :
    (∀ u ∈ packUnits us, 0x100 ≤ u.val) ↔ ∀ i u, us[2 * i]? = some u → u.val ≠ 0 := by
  induction us using pair_induct with
  | nil => simp
  | single a => exact absurd even (by simp)
  | pair a b rest ih =>
      have value := val_packPair (small a (by simp)) (small b (by simp))
      have first : 0x100 ≤ (packPair a b).val ↔ a.val ≠ 0 := by
        have := small b (by simp)
        omega
      have later (i : Nat) : (a :: b :: rest)[2 * (i + 1)]? = rest[2 * i]? := rfl
      rw [packUnits_cons, List.forall_mem_cons, ih (even_of_pair even) fun u mem => small u (by simp [mem]), first]
      constructor
      · rintro ⟨head, tail⟩ i u at_i
        cases i with
        | zero => exact Option.some.inj at_i ▸ head
        | succ i => exact tail i u (later i ▸ at_i)
      · intro all
        exact ⟨all 0 a rfl, fun i u at_i => all (i + 1) u ((later i).trans at_i)⟩

/-! ## What unpacks to a zero first -/

theorem decodeAt_eq_self {rest : List CodeUnit} (noLong : longSequence? rest = none)
    (noShort : shortSequence? rest = none) (u : CodeUnit) : decodeAt u rest = (u, 0) := by
  unfold decodeAt
  rw [noLong, noShort]
  split <;> rfl

theorem escapeUnit_u {u : CodeUnit} (isU : u.val = 0x75) : escapeUnit u = [('u' : CodePoint)] := by
  obtain rfl : u = ⟨0x75, by decide⟩ := CodeUnit.ext isU
  rfl

theorem unpackUnits_u_ne_zero {u v : CodeUnit} {us vs : List CodeUnit} (isU : u.val = 0x75)
    (unpacked : unpackUnits (u :: us) = v :: vs) : v.val ≠ 0 := by
  have start : escapeUnits (u :: us) = ('u' : CodePoint) :: escapeUnits us := by
    rw [escapeUnits_cons, escapeUnit_u isU, List.singleton_append]
  -- What it unpacks to first is a sign of the escaped text, and these are no zeros.
  match escaped : escapeUnits us with
  | [] | [_] =>
    rw [unpackUnits, start, escaped, mark_of_length_le (by simp), units_cons_of_lt (by decide),
      unescapeUnits_of_ne (by decide)] at unpacked
    rw [← (List.cons.inj unpacked).1]
    decide
  | a :: b :: rest =>
    have bounds : ∀ c ∈ escapeUnits us, 0x25 ≤ c.val ∧ c.val < 0x80 := fun _ => escapeUnits_bounds
    rw [escaped] at bounds
    have first := bounds a (by simp)
    have second := bounds b (by simp)
    let sign : CodeUnit := ⟨a.val, by omega⟩
    let next : CodeUnit := ⟨b.val, by omega⟩
    let percent : CodeUnit := ⟨('%' : CodePoint).val, by decide⟩
    have marked : (mark (escapeUnits (u :: us))).units = [sign] ++ next :: percent :: (mark rest).units := by
      rw [start, escaped, mark_u, units_cons_of_lt, units_cons_of_lt, units_cons_of_lt]
      rfl
    have noLong : longSequence? (next :: percent :: (mark rest).units) = none := longSequence?_of_marked marked
    have noShort : shortSequence? (next :: percent :: (mark rest).units) = none := hexByte?_eq_none (.inr rfl)
    rw [unpackUnits, marked, List.singleton_append, unescapeUnits_cons, decodeAt_eq_self noLong noShort] at unpacked
    rw [← (List.cons.inj unpacked).1]
    exact Nat.ne_of_gt (Nat.lt_of_lt_of_le (by decide) first.1)

theorem eq_zero_of_unpackUnits {u : CodeUnit} {us vs : List CodeUnit}
    (unpacked : unpackUnits (u :: us) = zeroUnit :: vs) : u = zeroUnit ∧ unpackUnits us = vs := by
  by_cases wide : 0x100 ≤ u.val
  · rw [unpackUnits_cons_wide wide] at unpacked
    have high := congrArg CodeUnit.val (List.cons.inj unpacked).1
    rw [CodeUnit.val_highByte, val_zeroUnit] at high
    omega
  · by_cases isU : u.val = 0x75
    · exact absurd rfl (unpackUnits_u_ne_zero isU unpacked)
    · rw [unpackUnits_cons_byte (by omega) isU] at unpacked
      exact List.cons.inj unpacked

/-! ## When nothing is lost -/

/-- Code that is made of bytes and in normal form has no pair that begins with a zero. -/
structure Reversible (code : Text) : Prop where
  latin : ∀ c ∈ code, c.val ≤ 0xFF
  noZero : ∀ i u, (normalize code).units[2 * i]? = some u → u.val ≠ 0

theorem Reversible.latin_lt {code : Text} (reversible : Reversible code) : ∀ c ∈ code, c.val < 0x100 :=
  fun c mem => Nat.lt_succ_of_le (reversible.latin c mem)

/-- The lag: with zeros still to come, pairs cannot be unpacked to themselves. -/
theorem unpackUnits_ne_of_lag (lag : Nat) (us : List CodeUnit) :
    unpackUnits us ≠ List.replicate (lag + 1) zeroUnit ++ us.flatMap CodeUnit.bytes := by
  induction us generalizing lag with
  | nil => simp [List.replicate_succ]
  | cons u us ih =>
      intro unpacked
      rw [List.replicate_succ, List.cons_append] at unpacked
      -- A zero comes from a zero unit only, which gives one zero where its pair has two.
      obtain ⟨rfl, rest⟩ := eq_zero_of_unpackUnits unpacked
      apply ih (lag + 1)
      rw [rest, List.flatMap_cons, List.replicate_succ', List.replicate_succ', List.append_assoc, List.append_assoc]
      rfl

theorem unpackUnits_eq_bytes_iff (us : List CodeUnit) :
    unpackUnits us = us.flatMap CodeUnit.bytes ↔ ∀ u ∈ us, 0x100 ≤ u.val := by
  induction us with
  | nil => simp
  | cons u us ih =>
      rw [List.forall_mem_cons, List.flatMap_cons]
      by_cases wide : 0x100 ≤ u.val
      · rw [unpackUnits_cons_wide wide, ← ih]
        simp [CodeUnit.bytes, wide]
      · refine iff_of_false (fun unpacked => ?_) (fun all => wide all.1)
        have high : u.highByte = zeroUnit := by
          apply CodeUnit.ext
          rw [CodeUnit.val_highByte, val_zeroUnit]
          omega
        rw [CodeUnit.bytes, high, List.cons_append] at unpacked
        obtain ⟨rfl, rest⟩ := eq_zero_of_unpackUnits unpacked
        exact unpackUnits_ne_of_lag 0 us rest

theorem units_normalize_lt {code : Text} (latin : ∀ c ∈ code, c.val < 0x100) :
    ∀ u ∈ (normalize code).units, u.val < 0x100 :=
  fun _ => Text.val_lt_of_mem_units (by decide) (normalize_val_lt_iff.mpr latin)

theorem Reversible.le_val_of_mem {code : Text} (reversible : Reversible code) {c : CodePoint}
    (mem : c ∈ Text.ofUnits (packUnits (normalize code).units)) : 0x100 ≤ c.val := by
  refine Text.le_val_of_mem (by decide) ?_ mem
  rw [Text.units_ofUnits]
  exact (wide_packUnits_iff (even_units_normalize code) (units_normalize_lt reversible.latin_lt)).mpr reversible.noZero

theorem decode_encode_eq_normalize_iff (code : Text) : decode (encode code) = normalize code ↔ Reversible code := by
  have decoded : decode (encode code) = (unpackUnits (packUnits (normalize code).units)).map CodeUnit.codePoint := by
    rw [decode_eq_map (payload?_encode code), Text.units_ofUnits]
  by_cases latin : ∀ c ∈ code, c.val < 0x100
  · have small := normalize_val_lt_iff.mpr latin
    have smallUnits := units_normalize_lt latin
    have narrow (c : CodePoint) (mem : c ∈ normalize code) : c.val < 0x10000 := Nat.lt_trans (small c mem) (by decide)
    have even := even_units_normalize code
    have same := unpackUnits_eq_bytes_iff (packUnits (normalize code).units)
    rw [flatMap_bytes_packUnits even smallUnits, wide_packUnits_iff even smallUnits] at same
    rw [decoded]
    constructor
    · intro equal
      refine ⟨fun c mem => Nat.le_of_lt_succ (latin c mem), same.mp ?_⟩
      rw [← Text.units_map_codePoint (unpackUnits _), equal]
    · intro reversible
      rw [same.mpr reversible.noZero, Text.map_codePoint_units narrow]
  · have wide : ¬ Reversible code := fun reversible => latin reversible.latin_lt
    refine iff_of_false (fun equal => ?_) wide
    -- Unpacking gives bytes only, so wide code cannot come back.
    apply latin
    rw [← normalize_val_lt_iff, ← equal, decoded]
    intro c mem
    obtain ⟨u, memUnit, rfl⟩ := List.mem_map.mp mem
    exact unpackUnits_lt memUnit

end Packing
end Bytebeat
