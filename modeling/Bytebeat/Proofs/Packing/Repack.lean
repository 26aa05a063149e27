import Bytebeat.Proofs.Packing.Collapse
import Bytebeat.Proofs.Packing.RoundTrip
import Bytebeat.Proofs.Text.Surrogates

namespace Bytebeat.Packing

theorem pad_of_even {t : Text} (even : t.units.length % 2 = 0) : pad t = t :=
  if_neg (by omega)

theorem normalize_eq_self {t : Text} (even : t.units.length % 2 = 0) (apart : ¬ (", " : Text) <:+: t) :
    normalize t = t := by
  rw [normalize, pad_of_even even, collapse_eq_self apart, pad_of_even even]

theorem packPair_bytes (u : CodeUnit) : packPair u.highByte u.lowByte = u := by
  have bound := u.isLt
  have high := CodeUnit.val_highByte u
  have low := CodeUnit.val_lowByte u
  apply CodeUnit.ext
  rw [val_packPair (by omega) (by omega)]
  omega

theorem packUnits_flatMap_bytes (us : List CodeUnit) : packUnits (us.flatMap CodeUnit.bytes) = us := by
  induction us with
  | nil => rfl
  | cons u us ih =>
      rw [List.flatMap_cons, CodeUnit.bytes, List.cons_append, List.singleton_append, packUnits_cons, packPair_bytes,
        ih]

theorem even_length_flatMap_bytes (us : List CodeUnit) : (us.flatMap CodeUnit.bytes).length % 2 = 0 := by
  induction us with
  | nil => rfl
  | cons u us ih =>
      rw [List.flatMap_cons, List.length_append]
      show (2 + _) % 2 = 0
      omega

theorem units_decode_of_wide {code payload : Text} (packed : payload? code = some payload)
    (wide : ∀ u ∈ payload.units, 0x100 ≤ u.val) : (decode code).units = payload.units.flatMap CodeUnit.bytes := by
  rw [decode_eq_map packed, (unpackUnits_eq_bytes_iff _).mpr wide, Text.units_map_codePoint]

theorem render_plain (payload : Text) : Wrapper.render { payload } =
    "eval(unescape(escape\x60" ++ payload ++ "\x60.replace(/u(..)/g,\"$1%\")))" := by
  have front : Wrapper.head ++ Delimiter.bare.opening = "eval(unescape(escape\x60" := rfl
  have back : Wrapper.ending { payload } = "\x60.replace(/u(..)/g,\"$1%\")))" := rfl
  rw [Wrapper.render, front, back]

theorem encode_decode {code payload : Text} (packed : payload? code = some payload)
    (wide : ∀ u ∈ payload.units, 0x100 ≤ u.val) (apart : ¬ (", " : Text) <:+: decode code) :
    ∃ joined, encode (decode code) = "eval(unescape(escape\x60" ++ joined ++ "\x60.replace(/u(..)/g,\"$1%\")))" ∧
      joined.units = payload.units ∧ (joined = payload ↔ ¬ payload.SplitPair) := by
  have units := units_decode_of_wide packed wide
  have even : (decode code).units.length % 2 = 0 := by
    rw [units]
    exact even_length_flatMap_bytes _
  refine ⟨.ofUnits payload.units, ?_, Text.units_ofUnits _, Text.ofUnits_units_eq_self_iff⟩
  rw [encode, wrap, normalize_eq_self even apart, units, packUnits_flatMap_bytes, render_plain]

theorem encode_decode_of_split_pair :
    let payload : Text := ([⟨0xD834, by decide⟩, ⟨0xDD1E, by decide⟩] : Text) ++ "ⱡ😀"
    let code : Text := "\n eval(unescape(escape('" ++ payload ++ "\x60.replace(/u(..)/g,\x60$1%\")))\u3000"
    payload? code = some payload ∧ (∀ u ∈ payload.units, 0x100 ≤ u.val) ∧ ¬ (", " : Text) <:+: decode code ∧
    ∃ joined, encode (decode code) = "eval(unescape(escape\x60" ++ joined ++ "\x60.replace(/u(..)/g,\"$1%\")))" ∧
      joined.units = payload.units ∧ (joined = payload ↔ ¬ payload.SplitPair) :=
  ⟨by decide +kernel, by decide, by decide +kernel,
    encode_decode (by decide +kernel) (by decide) (by decide +kernel)⟩

end Bytebeat.Packing
