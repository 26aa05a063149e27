import Bytebeat.Packing.Codec
import Bytebeat.Proofs.Packing.Mark

namespace Bytebeat
namespace CodeUnit

def highByte (u : CodeUnit) : CodeUnit := .ofNat (u.val >>> 8)

def lowByte (u : CodeUnit) : CodeUnit := .ofNat (u.val &&& 0xFF)

theorem val_highByte (u : CodeUnit) : u.highByte.val = u.val / 0x100 := by
  have bound := u.isLt
  have value : u.highByte.val = (u.val >>> 8) % 0x10000 := rfl
  rw [value, Nat.shiftRight_eq_div_pow]
  omega

theorem val_lowByte (u : CodeUnit) : u.lowByte.val = u.val % 0x100 := by
  have value : u.lowByte.val = (u.val &&& (2 ^ 8 - 1)) % 0x10000 := rfl
  rw [value, Nat.and_two_pow_sub_one_eq_mod]
  omega

end CodeUnit

namespace Packing

def splitUnit (u : CodeUnit) : List CodeUnit := if 0x100 ≤ u.val then [u.highByte, u.lowByte] else [u]

def unpackUnits (us : List CodeUnit) : List CodeUnit := unescapeUnits (mark (escapeUnits us)).units

@[simp] theorem unpackUnits_nil : unpackUnits [] = [] := rfl

theorem escapeUnits_cons (u : CodeUnit) (us : List CodeUnit) : escapeUnits (u :: us) = escapeUnit u ++ escapeUnits us :=
  List.flatMap_cons

theorem unpackUnits_cons_wide {u : CodeUnit} (wide : 0x100 ≤ u.val) (us : List CodeUnit) :
    unpackUnits (u :: us) = u.highByte :: u.lowByte :: unpackUnits us := by
  have bound := u.isLt
  have long : escapeUnit u = longSequence u.val := by
    obtain ⟨safe, -⟩ | ⟨byte, -⟩ | ⟨-, eq⟩ := escapeUnit_cases u
    · have := isSafe_bounds safe
      omega
    · omega
    · exact eq
  have high : CodeUnit.ofNat (u.val / 0x100 % 0x100) = u.highByte := by
    apply CodeUnit.ext
    rw [CodeUnit.ofNat_of_lt (by omega), CodeUnit.val_highByte]
    omega
  have low : CodeUnit.ofNat (u.val % 0x100) = u.lowByte := by
    apply CodeUnit.ext
    rw [CodeUnit.ofNat_of_lt (by omega), CodeUnit.val_lowByte]
  rw [unpackUnits, escapeUnits_cons, long, mark_longSequence, unescapeUnits_shortSequence,
    unescapeUnits_shortSequence, high, low]
  rfl

theorem unpackUnits_cons_byte {u : CodeUnit} (byte : u.val < 0x100) (noU : u.val ≠ 0x75) (us : List CodeUnit) :
    unpackUnits (u :: us) = u :: unpackUnits us := by
  rw [unpackUnits, escapeUnits_cons]
  obtain ⟨safe, eq⟩ | ⟨-, -, eq⟩ | ⟨wide, -⟩ := escapeUnit_cases u
  · have bounds := isSafe_bounds safe
    have ne : u.codePoint ≠ 'u' := fun isU => noU (congrArg CodePoint.val isU)
    rw [eq, List.singleton_append, mark_cons ne, Text.units_cons, CodeUnit.units_codePoint, List.singleton_append,
      unescapeUnits_of_ne (by omega)]
    rfl
  · have same : CodeUnit.ofNat (u.val % 0x100) = u := by
      apply CodeUnit.ext
      rw [CodeUnit.ofNat_of_lt (by omega)]
      omega
    rw [eq, mark_append (u_not_mem_shortSequence _), unescapeUnits_shortSequence, same]
    rfl
  · omega

theorem unpackUnits_eq_flatMap {us : List CodeUnit} (noU : ∀ u ∈ us, u.val ≠ 0x75) :
    unpackUnits us = us.flatMap splitUnit := by
  induction us with
  | nil => rfl
  | cons u us ih =>
      have rest := ih fun v mem => noU v (by simp [mem])
      rw [List.flatMap_cons, ← rest, splitUnit]
      by_cases wide : 0x100 ≤ u.val
      · rw [if_pos wide, unpackUnits_cons_wide wide]
        rfl
      · rw [if_neg wide, unpackUnits_cons_byte (by omega) (noU u (by simp))]
        rfl

/-! ## Nothing beyond a byte comes out -/

theorem mark_escapeUnits_lt {us : List CodeUnit} {c : CodePoint} (mem : c ∈ mark (escapeUnits us)) : c.val < 0x80 := by
  rcases mem_mark mem with escaped | rfl
  · exact (escapeUnits_bounds escaped).2
  · decide

theorem longSequence?_of_marked {us before rest : List CodeUnit}
    (split : (mark (escapeUnits us)).units = before ++ rest) : longSequence? rest = none :=
  longSequence?_of_settled (settled_mark _) (fun _ mem => Nat.lt_trans (mark_escapeUnits_lt mem) (by decide)) split

theorem mem_unescapeUnits : ∀ {us : List CodeUnit} {v : CodeUnit}, v ∈ unescapeUnits us →
    ∃ before u rest, us = before ++ u :: rest ∧ v = (decodeAt u rest).1
  | [], _, mem => absurd mem (by simp)
  | u :: rest, v, mem => by
    rw [unescapeUnits_cons, List.mem_cons] at mem
    rcases mem with here | later
    · exact ⟨[], u, rest, rfl, here⟩
    · obtain ⟨before, w, after, split, eq⟩ := mem_unescapeUnits later
      refine ⟨u :: (rest.take (decodeAt u rest).2 ++ before), w, after, ?_, eq⟩
      rw [List.cons_append, List.append_assoc, ← split, List.take_append_drop]
termination_by us => us.length
decreasing_by simp only [List.length_drop, List.length_cons]; omega

theorem hexByte?_lt {a b v : CodeUnit} (h : hexByte? a b = some v) : v.val < 0x100 := by
  simp only [hexByte?, Option.bind_eq_bind, Option.bind_eq_some_iff, Option.pure_def, Option.some.injEq] at h
  obtain ⟨high, highDigit, low, lowDigit, rfl⟩ := h
  have := CodePoint.hexDigit?_lt highDigit
  have := CodePoint.hexDigit?_lt lowDigit
  rw [CodeUnit.ofNat_of_lt (by omega)]
  omega

theorem shortSequence?_lt {us : List CodeUnit} {v : CodeUnit} (h : shortSequence? us = some v) : v.val < 0x100 := by
  unfold shortSequence? at h
  split at h
  · exact hexByte?_lt h
  · cases h

theorem unpackUnits_lt {us : List CodeUnit} {v : CodeUnit} (mem : v ∈ unpackUnits us) : v.val < 0x100 := by
  obtain ⟨before, u, rest, split, rfl⟩ := mem_unescapeUnits mem
  have after : (mark (escapeUnits us)).units = (before ++ [u]) ++ rest := by
    rw [split, List.append_assoc, List.singleton_append]
  have noLong : longSequence? rest = none := longSequence?_of_marked after
  -- What is left is a byte of two digits or a sign of the marked text.
  have ascii : u.val < 0x80 := by
    apply Text.val_lt_of_mem_units (t := mark (escapeUnits us)) (by decide) fun _ => mark_escapeUnits_lt
    rw [split]
    simp
  unfold decodeAt
  rw [noLong]
  split
  · cases short : shortSequence? rest with
    | none => exact Nat.lt_trans ascii (by decide)
    | some v => exact shortSequence?_lt short
  · exact Nat.lt_trans ascii (by decide)

theorem unpackPayload_eq_map (payload : Text) :
    unpackPayload payload = (unpackUnits payload.units).map CodeUnit.codePoint :=
  Text.ofUnits_of_bytes fun _ => unpackUnits_lt

theorem decode_eq_map {code payload : Text} (packed : payload? code = some payload) :
    decode code = (unpackUnits payload.units).map CodeUnit.codePoint := by
  rw [decode, packed]
  exact unpackPayload_eq_map payload

/-! ## Unpacking a wrapper -/

theorem decode_val_le {code : Text} (packed : isPacked code = true) :
    (∀ c ∈ decode code, c.val ≤ 0xFF) ∧
    ∀ payload, payload? code = some payload → ∀ before rest : List CodeUnit,
      (mark (escape payload)).units = before ++ rest → longSequence? rest = none := by
  constructor
  · obtain ⟨payload, isPayload⟩ := Option.isSome_iff_exists.mp packed
    rw [decode_eq_map isPayload]
    intro c mem
    obtain ⟨u, memUnit, rfl⟩ := List.mem_map.mp mem
    exact Nat.le_of_lt_succ (unpackUnits_lt memUnit)
  · intro payload _ before rest split
    exact longSequence?_of_marked split

theorem decode_val_le_of_stray_u :
    isPacked "eval(unescape(escape('uu%u扢u0041捤\x60).replace(/u(..)/g,\x60$1%\")))" = true ∧
    ∀ c ∈ decode "eval(unescape(escape('uu%u扢u0041捤\x60).replace(/u(..)/g,\x60$1%\")))", c.val ≤ 0xFF :=
  ⟨by decide +kernel, (decode_val_le (by decide +kernel)).1⟩

theorem decode_eq_splitUnit {code payload : Text} (packed : payload? code = some payload)
    (noU : ∀ u ∈ payload.units, u.val ≠ 0x75) :
    decode code = (payload.units.flatMap splitUnit).map CodeUnit.codePoint := by
  rw [decode_eq_map packed, unpackUnits_eq_flatMap noU]

theorem decode_eq_splitUnit_of_surrogates :
    let payload : Text := "%4a" ++ ([⟨0xDC00, by decide⟩] : Text) ++ "A😀+é扢"
    payload? (Wrapper.render { payload }) = some payload ∧ (∀ u ∈ payload.units, u.val ≠ 0x75) ∧
    decode (Wrapper.render { payload }) = (payload.units.flatMap splitUnit).map CodeUnit.codePoint :=
  ⟨by decide, by decide, decode_eq_splitUnit (by decide) (by decide)⟩

end Packing
end Bytebeat
