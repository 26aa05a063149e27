import Bytebeat.Proofs.Text.Halves
import Bytebeat.Text.Utf8

namespace Bytebeat
namespace CodePoint

theorem ofNat?_val (c : CodePoint) : ofNat? c.val = some c := dif_pos c.isLt

theorem utf8_cases (c : CodePoint) :
    (c.val < 0x80 ∧ c.utf8 = [.ofNat c.val]) ∨
    (0x80 ≤ c.val ∧ c.val < 0x800 ∧ c.utf8 = [.ofNat (0xC0 + c.val / 0x40), .ofNat (0x80 + c.val % 0x40)]) ∨
    (0x800 ≤ c.val ∧ c.val < 0x10000 ∧
      c.utf8 = [.ofNat (0xE0 + c.val / 0x1000), .ofNat (0x80 + c.val / 0x40 % 0x40), .ofNat (0x80 + c.val % 0x40)]) ∨
    (0x10000 ≤ c.val ∧
      c.utf8 = [.ofNat (0xF0 + c.val / 0x40000), .ofNat (0x80 + c.val / 0x1000 % 0x40),
        .ofNat (0x80 + c.val / 0x40 % 0x40), .ofNat (0x80 + c.val % 0x40)]) := by
  simp only [utf8, Nat.shiftRight_eq_div_pow]
  split
  · exact .inl ⟨by assumption, rfl⟩
  · split
    · exact .inr (.inl ⟨by omega, by assumption, by simp⟩)
    · split
      · exact .inr (.inr (.inl ⟨by omega, by assumption, by simp⟩))
      · exact .inr (.inr (.inr ⟨by omega, by simp⟩))

end CodePoint

namespace Text

theorem toNat_byte {n : Nat} (small : n < 0x100) : (UInt8.ofNat n).toNat = n := UInt8.toNat_ofNat_of_lt small

theorem continuation?_byte {x : Nat} (small : x < 0x40) : continuation? (.ofNat (0x80 + x)) = some x := by
  rw [continuation?, toNat_byte (by omega), if_pos (by simp; omega), Nat.add_sub_cancel_left]

variable {c : CodePoint} {t : Text}

theorem readUtf8?_utf8 (whole : c.isSurrogate = false) (surrogates : Surrogates) (rest : List UInt8) :
    readUtf8? surrogates (c.utf8 ++ rest) = some (c, rest) := by
  have bound := c.isLt
  have follows (n : Nat) : continuation? (.ofNat (0x80 + n % 0x40)) = some (n % 0x40) :=
    continuation?_byte (Nat.mod_lt n (by decide))
  obtain ⟨one, bytes⟩ | ⟨least, two, bytes⟩ | ⟨least, three, bytes⟩ | ⟨least, bytes⟩ := c.utf8_cases
  · rw [bytes]
    simp only [readUtf8?, List.cons_append, List.nil_append, toNat_byte (show c.val < 0x100 by omega), if_pos one,
      c.ofNat?_val, Option.map_some]
  · have first : (UInt8.ofNat (0xC0 + c.val / 0x40)).toNat = 0xC0 + c.val / 0x40 := toNat_byte (by omega)
    have value : c.val / 0x40 * 0x40 + c.val % 0x40 = c.val := by omega
    rw [bytes]
    simp only [readUtf8?, List.cons_append, List.nil_append, first, follows]
    rw [if_neg (by omega), if_pos (by simp; omega)]
    simp only [Nat.add_sub_cancel_left, Option.bind_eq_bind, Option.bind_some, value, c.ofNat?_val, Option.map_some]
  · have first : (UInt8.ofNat (0xE0 + c.val / 0x1000)).toNat = 0xE0 + c.val / 0x1000 := toNat_byte (by omega)
    have value : (c.val / 0x1000 * 0x40 + c.val / 0x40 % 0x40) * 0x40 + c.val % 0x40 = c.val := by omega
    rw [bytes]
    simp only [readUtf8?, List.cons_append, List.nil_append, first, follows]
    rw [if_neg (by omega), if_neg (by simp), if_pos (by simp; omega)]
    simp only [Nat.add_sub_cancel_left, Option.bind_eq_bind, Option.bind_some, value, c.ofNat?_val]
    rw [whole, if_neg (by simp; omega)]
  · have first : (UInt8.ofNat (0xF0 + c.val / 0x40000)).toNat = 0xF0 + c.val / 0x40000 := toNat_byte (by omega)
    have value : ((c.val / 0x40000 * 0x40 + c.val / 0x1000 % 0x40) * 0x40 + c.val / 0x40 % 0x40) * 0x40 +
        c.val % 0x40 = c.val := by omega
    rw [bytes]
    simp only [readUtf8?, List.cons_append, List.nil_append, first, follows]
    rw [if_neg (by omega), if_neg (by simp; omega), if_neg (by simp), if_pos (by simp; omega)]
    simp only [Nat.add_sub_cancel_left, Option.bind_eq_bind, Option.bind_some, value, c.ofNat?_val]
    rw [if_neg (by omega)]

theorem readAllUtf8?_utf8 (whole : t.hasSurrogate = false) (surrogates : Surrogates) {steps : Nat}
    (enough : t.length ≤ steps) (done : Text) :
    readAllUtf8? surrogates steps t.utf8 done = some (done.reverse ++ t) := by
  -- Each step takes a whole code point off the bytes, so the steps run down with the text and not with its bytes.
  induction t generalizing steps done with
  | nil => cases steps <;> simp [utf8, readAllUtf8?]
  | cons c t ih =>
      rw [hasSurrogate_cons, Bool.or_eq_false_iff] at whole
      have read := readUtf8?_utf8 whole.1 surrogates (utf8 t)
      show readAllUtf8? surrogates steps (c.utf8 ++ utf8 t) done = _
      cases bytes : c.utf8 ++ utf8 t with
      | nil =>
          rw [bytes] at read
          cases read
      | cons b bs =>
          cases steps with
          | zero => cases enough
          | succ steps =>
              have rest := ih whole.2 (Nat.le_of_succ_le_succ enough) (c :: done)
              rw [List.reverse_cons, List.append_assoc] at rest
              rw [bytes] at read
              rw [readAllUtf8?, read]
              exact rest

theorem length_le_length_utf8 (t : Text) : t.length ≤ t.utf8.length := by
  induction t with
  | nil => exact Nat.le_refl 0
  | cons c t ih =>
      have positive : 0 < c.utf8.length := by
        rw [c.length_utf8, CodePoint.utf8Length]
        repeat' split
        all_goals decide
      rw [utf8, List.flatMap_cons, List.length_append, List.length_cons, ← utf8]
      omega

theorem ofUtf8?_utf8 (whole : t.hasSurrogate = false) (surrogates : Surrogates) :
    ofUtf8? t.utf8 surrogates = some t :=
  readAllUtf8?_utf8 whole surrogates t.length_le_length_utf8 []

end Text
end Bytebeat
