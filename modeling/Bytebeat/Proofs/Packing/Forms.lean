import Bytebeat.Proofs.Packing.Sequences

namespace Bytebeat.Packing

def lowerDigits : Text := "0123456789abcdef"

def IsDigit (c : CodePoint) : Prop := Text.lowerOne c ∈ lowerDigits

instance (c : CodePoint) : Decidable (IsDigit c) := inferInstanceAs (Decidable (_ ∈ _))

def namedAnyCase (digits : Text) : Nat := Text.valueOf 16 (digits.lower.map lowerDigits.idxOf)

/-- The forms of escape sequences: `%XX` and `%uXXXX`. -/
inductive Form where
  | short
  | long
  deriving DecidableEq

namespace Form

def lead : Form → Text
  | short => "%"
  | long => "%u"

def width : Form → Nat
  | short => 2
  | long => 4

def size (form : Form) : Nat := form.lead.length + form.width

theorem size_pos (form : Form) : 0 < form.size := by cases form <;> decide

def digits (form : Form) (us : List CodeUnit) : Text :=
  ((us.drop form.lead.length).take form.width).map CodeUnit.codePoint

def Begins (form : Form) (us : List CodeUnit) : Prop :=
  form.lead <+: us.map CodeUnit.codePoint ∧ (form.digits us).length = form.width ∧ ∀ d ∈ form.digits us, IsDigit d

def unit (form : Form) (us : List CodeUnit) : CodeUnit := .ofNat (namedAnyCase (form.digits us))

instance (form : Form) (us : List CodeUnit) : Decidable (form.Begins us) := inferInstanceAs (Decidable (_ ∧ _ ∧ _))

instance {p : Form → Prop} [DecidablePred p] : Decidable (∃ form, p form) :=
  decidable_of_iff (p short ∨ p long)
    ⟨fun either => either.elim (⟨_, ·⟩) (⟨_, ·⟩), fun | ⟨short, holds⟩ => .inl holds | ⟨long, holds⟩ => .inr holds⟩

end Form

/-! ## Digits and sequences as they are read -/

theorem hexDigit?_eq (c : CodePoint) :
    c.hexDigit? = if IsDigit c then some (lowerDigits.idxOf (Text.lowerOne c)) else none := by
  have ascii : ∀ n, (small : n < 0x80) → CodePoint.hexDigit? ⟨n, Nat.lt_trans small (by decide)⟩ =
      if IsDigit ⟨n, Nat.lt_trans small (by decide)⟩ then
        some (lowerDigits.idxOf (Text.lowerOne ⟨n, Nat.lt_trans small (by decide)⟩)) else none := by decide +kernel
  by_cases small : c.val < 0x80
  · exact ascii c.val small
  · have notDigit : ¬ IsDigit c := by
      have digits : ∀ d ∈ lowerDigits, d.val < 0x80 := by decide
      have notK : CodePoint.ofChar 'k' ∉ lowerDigits := by decide
      rw [IsDigit, Text.lowerOne, dif_neg (by omega)]
      split
      · exact notK
      · exact fun digit => small (digits c digit)
    rw [if_neg notDigit, CodePoint.hexDigit?]
    simp only [Bool.and_eq_true, decide_eq_true_eq]
    rw [if_neg (by omega), if_neg (by omega), if_neg (by omega)]

variable {u : CodeUnit} {us rest : List CodeUnit} {form : Form}

theorem eq_codePoint_iff {c : CodePoint} : c = u.codePoint ↔ u.val = c.val :=
  ⟨fun same => (congrArg CodePoint.val same).symm, fun same => CodePoint.ext same.symm⟩

theorem percent_iff : '%' = u.codePoint ↔ u.val = 0x25 := eq_codePoint_iff

theorem letter_iff : 'u' = u.codePoint ↔ u.val = 0x75 := eq_codePoint_iff

theorem IsDigit.ne (digit : IsDigit u.codePoint) : u.val ≠ 0x25 ∧ u.val ≠ 0x75 := by
  have notPercent : ¬ IsDigit '%' := by decide
  have notLetter : ¬ IsDigit 'u' := by decide
  rw [ne_eq, ne_eq, ← percent_iff, ← letter_iff]
  exact ⟨fun same => notPercent (same ▸ digit), fun same => notLetter (same ▸ digit)⟩

theorem begins_short_iff : Form.short.Begins us ↔ ∃ u a b rest, us = u :: a :: b :: rest ∧
    u.val = 0x25 ∧ IsDigit a.codePoint ∧ IsDigit b.codePoint := by
  have lead : Form.short.lead = [('%' : CodePoint)] := rfl
  match us with
  | u :: a :: b :: rest => simp [Form.Begins, Form.digits, Form.width, lead, percent_iff, and_assoc]
  | [] | [_] | [_, _] => simp [Form.Begins, Form.digits, Form.width, lead]

theorem begins_long_iff : Form.long.Begins us ↔ ∃ u v a b c d rest, us = u :: v :: a :: b :: c :: d :: rest ∧
    u.val = 0x25 ∧ v.val = 0x75 ∧ IsDigit a.codePoint ∧ IsDigit b.codePoint ∧
    IsDigit c.codePoint ∧ IsDigit d.codePoint := by
  have lead : Form.long.lead = [('%' : CodePoint), ('u' : CodePoint)] := rfl
  match us with
  | u :: v :: a :: b :: c :: d :: rest =>
    simp [Form.Begins, Form.digits, Form.width, lead, percent_iff, letter_iff, and_assoc]
  | [] | [_] | [_, _] | [_, _, _] | [_, _, _, _] | [_, _, _, _, _] => simp [Form.Begins, Form.digits, Form.width, lead]

theorem hexByte?_eq (a b : CodeUnit) : hexByte? a b =
    if IsDigit a.codePoint ∧ IsDigit b.codePoint then
      some (.ofNat (namedAnyCase [a.codePoint, b.codePoint])) else none := by
  simp only [hexByte?, hexDigit?_eq]
  by_cases high : IsDigit a.codePoint <;> by_cases low : IsDigit b.codePoint <;>
    simp [high, low, namedAnyCase, Text.valueOf, Text.lower]

theorem namedAnyCase_lt {a b : CodePoint} (high : IsDigit a) (low : IsDigit b) : namedAnyCase [a, b] < 0x100 :=
  Text.valueOf_two_lt (List.idxOf_lt_length_of_mem high) (List.idxOf_lt_length_of_mem low)

theorem namedAnyCase_four (a b c d : CodePoint) :
    namedAnyCase [a, b, c, d] = 0x100 * namedAnyCase [a, b] + namedAnyCase [c, d] := Text.valueOf_four _ _ _ _

theorem hexWord?_eq (a b c d : CodeUnit) : hexWord? a b c d =
    if IsDigit a.codePoint ∧ IsDigit b.codePoint ∧ IsDigit c.codePoint ∧ IsDigit d.codePoint then
      some (.ofNat (namedAnyCase [a.codePoint, b.codePoint, c.codePoint, d.codePoint])) else none := by
  simp only [hexWord?, hexByte?_eq]
  by_cases high : IsDigit a.codePoint ∧ IsDigit b.codePoint
  · by_cases low : IsDigit c.codePoint ∧ IsDigit d.codePoint
    · have highByte := namedAnyCase_lt high.1 high.2
      have lowByte := namedAnyCase_lt low.1 low.2
      rw [if_pos high, if_pos low, if_pos ⟨high.1, high.2, low⟩, namedAnyCase_four, Option.bind_eq_bind,
        Option.bind_some, Option.bind_some, CodeUnit.ofNat_of_lt (Nat.lt_trans highByte (by decide)),
        CodeUnit.ofNat_of_lt (Nat.lt_trans lowByte (by decide))]
      rfl
    · simp [high, low]
  · simp [high, ← and_assoc]

theorem longSequence?_eq (percent : u.val = 0x25) (rest : List CodeUnit) : longSequence? rest =
    if Form.long.Begins (u :: rest) then some (Form.long.unit (u :: rest)) else none := by
  match rest with
  | v :: a :: b :: c :: d :: rest =>
    by_cases isU : v.val = 0x75
    · have begins : Form.long.Begins (u :: v :: a :: b :: c :: d :: rest) ↔ IsDigit a.codePoint ∧
          IsDigit b.codePoint ∧ IsDigit c.codePoint ∧ IsDigit d.codePoint := by
        simp [begins_long_iff, percent, isU, and_assoc]
      simp only [longSequence?, if_pos isU, hexWord?_eq, begins]
      rfl
    · simp [longSequence?, begins_long_iff, isU, and_assoc]
  | [] | [_] | [_, _] | [_, _, _] | [_, _, _, _] => simp [longSequence?, begins_long_iff]

theorem shortSequence?_eq (percent : u.val = 0x25) (rest : List CodeUnit) : shortSequence? rest =
    if Form.short.Begins (u :: rest) then some (Form.short.unit (u :: rest)) else none := by
  match rest with
  | a :: b :: rest =>
    have begins : Form.short.Begins (u :: a :: b :: rest) ↔ IsDigit a.codePoint ∧ IsDigit b.codePoint := by
      simp [begins_short_iff, percent, and_assoc]
    simp only [shortSequence?, hexByte?_eq, begins]
    rfl
  | [] | [_] => simp [shortSequence?, begins_short_iff]

/-! ## Sequences apart from each other -/

theorem Form.Begins.unique {form' : Form} (begins : form.Begins us) (begins' : form'.Begins us) : form = form' := by
  have apart : ¬ (Form.short.Begins us ∧ Form.long.Begins us) := by
    rintro ⟨short, long⟩
    obtain ⟨u, a, b, rest, rfl, -, digit, -⟩ := begins_short_iff.mp short
    obtain ⟨_, v, _, _, _, _, _, same, -, letter, -⟩ := begins_long_iff.mp long
    cases same
    exact digit.ne.2 letter
  cases form <;> cases form'
  · rfl
  · exact absurd ⟨begins, begins'⟩ apart
  · exact absurd ⟨begins', begins⟩ apart
  · rfl

theorem Form.Begins.size_le (begins : form.Begins us) : form.size ≤ us.length := by
  have enough := begins.2.1
  simp only [Form.digits, List.length_map, List.length_take, List.length_drop] at enough
  have pos : 0 < form.width := by cases form <;> decide
  unfold Form.size
  omega

theorem not_begins_of_ne (ne : u.val ≠ 0x25) : ¬ form.Begins (u :: rest) := by
  intro begins
  have percent : '%' = u.codePoint := by
    cases form <;> exact (List.cons_prefix_cons.mp begins.1).1
  exact ne (percent_iff.mp percent)

theorem not_begins_of_digit (digit : IsDigit u.codePoint) : ¬ form.Begins (u :: rest) :=
  not_begins_of_ne digit.ne.1

theorem not_begins_inside {form' : Form} (begins : form.Begins us) {j : Nat} (pos : 0 < j) (lt : j < form.size) :
    ¬ form'.Begins (us.drop j) := by
  cases form with
  | short =>
      obtain ⟨u, a, b, rest, rfl, -, first, second⟩ := begins_short_iff.mp begins
      have size : Form.short.size = 3 := rfl
      obtain rfl | rfl : j = 1 ∨ j = 2 := by omega
      · exact not_begins_of_digit first
      · exact not_begins_of_digit second
  | long =>
      obtain ⟨u, v, a, b, c, d, rest, rfl, -, letter, first, second, third, fourth⟩ := begins_long_iff.mp begins
      have size : Form.long.size = 6 := rfl
      obtain rfl | rfl | rfl | rfl | rfl : j = 1 ∨ j = 2 ∨ j = 3 ∨ j = 4 ∨ j = 5 := by omega
      · exact not_begins_of_ne (by omega)
      · exact not_begins_of_digit first
      · exact not_begins_of_digit second
      · exact not_begins_of_digit third
      · exact not_begins_of_digit fourth

/-! ## One step of unescaping -/

theorem unescapeUnits_of_begins (begins : form.Begins us) :
    unescapeUnits us = form.unit us :: unescapeUnits (us.drop form.size) := by
  cases form with
  | short =>
      have notLong : ¬ Form.long.Begins us := fun long => nomatch begins.unique long
      obtain ⟨u, a, b, rest, rfl, percent, -⟩ := begins_short_iff.mp begins
      have decoded : decodeAt u (a :: b :: rest) = (Form.short.unit (u :: a :: b :: rest), 2) := by
        rw [decodeAt, if_pos percent, longSequence?_eq percent, if_neg notLong, shortSequence?_eq percent,
          if_pos begins]
      rw [unescapeUnits_cons, decoded]
      rfl
  | long =>
      obtain ⟨u, v, a, b, c, d, rest, rfl, percent, -⟩ := begins_long_iff.mp begins
      have decoded : decodeAt u (v :: a :: b :: c :: d :: rest) =
          (Form.long.unit (u :: v :: a :: b :: c :: d :: rest), 5) := by
        rw [decodeAt, if_pos percent, longSequence?_eq percent, if_pos begins]
      rw [unescapeUnits_cons, decoded]
      rfl

theorem unescapeUnits_of_plain (plain : ∀ form : Form, ¬ form.Begins (u :: rest)) :
    unescapeUnits (u :: rest) = u :: unescapeUnits rest := by
  by_cases percent : u.val = 0x25
  · have kept : decodeAt u rest = (u, 0) := by
      rw [decodeAt, if_pos percent, longSequence?_eq percent, if_neg (plain .long), shortSequence?_eq percent,
        if_neg (plain .short)]
    rw [unescapeUnits_cons, kept, List.drop_zero]
  · exact unescapeUnits_of_ne percent rest

end Bytebeat.Packing
