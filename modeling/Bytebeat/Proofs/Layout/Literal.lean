import Bytebeat.Layout.Scan

/-!
Literals, read by looking ahead from their opening quote and not by a scan.

A literal opens at a quote outside all others and ends at the next same quote that is not escaped, or never. When a
quote is escaped is up to a rule, which sees the literal so far in reverse. What stands outside literals and whether
the text ends inside one are determined from the left: one more code point at the end changes them by a case
distinction on the literal that is open there (`concat_of_free`, `concat_of_closes`, `concat_of_not_closes`).
-/

namespace Bytebeat.Layout

abbrev EscapeRule := Text → Bool

def afterBackslash : EscapeRule := fun before => before.head? = some ('\\' : CodePoint)

/-- What follows a literal with the given quote, of which `before` has been read, in reverse; none if it never ends. -/
def afterLiteral? (rule : EscapeRule) (quote : CodePoint) (before : Text) : Text → Option Text
  | [] => none
  | c :: t => if c = quote ∧ rule before = false then some t else afterLiteral? rule quote (c :: before) t

theorem length_lt_of_afterLiteral? {rule : EscapeRule} {quote : CodePoint} {before t rest : Text}
    (ends : afterLiteral? rule quote before t = some rest) : rest.length < t.length := by
  induction t generalizing before with
  | nil => cases ends
  | cons c t ih =>
      unfold afterLiteral? at ends
      split at ends
      · cases ends
        exact Nat.lt_succ_self _
      · exact Nat.lt_succ_of_lt (ih ends)

def bare (rule : EscapeRule) : Text → Text
  | [] => []
  | c :: t =>
    if isQuote c then
      match _ends : afterLiteral? rule c [c] t with
      | some rest => bare rule rest
      | none => []
    else c :: bare rule t
termination_by t => t.length
decreasing_by
  · exact Nat.lt_succ_of_lt (length_lt_of_afterLiteral? _ends)
  · exact Nat.lt_succ_self _

/-- The literal in which a text ends, from its quote on; none if the text ends outside literals. -/
def unfinished? (rule : EscapeRule) : Text → Option Text
  | [] => none
  | c :: t =>
    if isQuote c then
      match _ends : afterLiteral? rule c [c] t with
      | some rest => unfinished? rule rest
      | none => some (c :: t)
    else unfinished? rule t
termination_by t => t.length
decreasing_by
  · exact Nat.lt_succ_of_lt (length_lt_of_afterLiteral? _ends)
  · exact Nat.lt_succ_self _

def closes (rule : EscapeRule) (literal : Text) (c : CodePoint) : Prop :=
  literal.head? = some c ∧ rule literal.reverse = false

variable {rule : EscapeRule}

theorem bare_code {c : CodePoint} (code : isQuote c = false) (t : Text) :
    bare rule (c :: t) = c :: bare rule t := by
  rw [bare, if_neg (by simp [code])]

theorem bare_literal {c : CodePoint} {t rest : Text} (quote : isQuote c = true)
    (ends : afterLiteral? rule c [c] t = some rest) : bare rule (c :: t) = bare rule rest := by
  rw [bare, if_pos quote]
  split <;> simp_all

theorem bare_open {c : CodePoint} {t : Text} (quote : isQuote c = true)
    (endless : afterLiteral? rule c [c] t = none) : bare rule (c :: t) = [] := by
  rw [bare, if_pos quote]
  split <;> simp_all

theorem unfinished?_code {c : CodePoint} (code : isQuote c = false) (t : Text) :
    unfinished? rule (c :: t) = unfinished? rule t := by
  rw [unfinished?, if_neg (by simp [code])]

theorem unfinished?_literal {c : CodePoint} {t rest : Text} (quote : isQuote c = true)
    (ends : afterLiteral? rule c [c] t = some rest) : unfinished? rule (c :: t) = unfinished? rule rest := by
  rw [unfinished?, if_pos quote]
  split <;> simp_all

theorem unfinished?_open {c : CodePoint} {t : Text} (quote : isQuote c = true)
    (endless : afterLiteral? rule c [c] t = none) : unfinished? rule (c :: t) = some (c :: t) := by
  rw [unfinished?, if_pos quote]
  split <;> simp_all

theorem literal_induct (rule : EscapeRule) {motive : Text → Prop} (nil : motive [])
    (code : ∀ c t, isQuote c = false → motive t → motive (c :: t))
    (literal : ∀ c t rest, isQuote c = true → afterLiteral? rule c [c] t = some rest → motive rest → motive (c :: t))
    (endless : ∀ c t, isQuote c = true → afterLiteral? rule c [c] t = none → motive (c :: t)) : ∀ t, motive t
  | [] => nil
  | c :: t => by
    cases quote : isQuote c with
    | false => exact code c t quote (literal_induct rule nil code literal endless t)
    | true =>
        cases ends : afterLiteral? rule c [c] t with
        | none => exact endless c t quote ends
        | some rest =>
            have := length_lt_of_afterLiteral? ends
            exact literal c t rest quote ends (literal_induct rule nil code literal endless rest)
termination_by t => t.length

/-! ## Text after text -/

theorem exists_of_afterLiteral? {quote : CodePoint} {before t rest : Text}
    (ends : afterLiteral? rule quote before t = some rest) :
    ∃ part, t = part ++ rest ∧ ∀ s, afterLiteral? rule quote before (part ++ s) = some s := by
  induction t generalizing before with
  | nil => cases ends
  | cons c t ih =>
      unfold afterLiteral? at ends
      split at ends
      · rename_i closed
        cases ends
        exact ⟨[c], rfl, fun s => by rw [List.singleton_append, afterLiteral?, if_pos closed]⟩
      · rename_i goesOn
        obtain ⟨part, rfl, reads⟩ := ih ends
        exact ⟨c :: part, rfl, fun s => by rw [List.cons_append, afterLiteral?, if_neg goesOn, reads]⟩

theorem afterLiteral?_append {quote : CodePoint} {before s rest : Text}
    (ends : afterLiteral? rule quote before s = some rest) (t : Text) :
    afterLiteral? rule quote before (s ++ t) = some (rest ++ t) := by
  obtain ⟨part, rfl, reads⟩ := exists_of_afterLiteral? ends
  rw [List.append_assoc, reads]

theorem append_of_free {s : Text} (free : unfinished? rule s = none) (t : Text) :
    unfinished? rule (s ++ t) = unfinished? rule t ∧ bare rule (s ++ t) = bare rule s ++ bare rule t := by
  induction s using literal_induct rule with
  | nil => simp [bare]
  | code c s code ih =>
      rw [unfinished?_code code] at free
      rw [List.cons_append, unfinished?_code code, bare_code code, bare_code code, (ih free).1, (ih free).2]
      exact ⟨rfl, rfl⟩
  | literal c s rest quote ends ih =>
      rw [unfinished?_literal quote ends] at free
      have later := afterLiteral?_append ends t
      rw [List.cons_append, unfinished?_literal quote later, bare_literal quote later, bare_literal quote ends]
      exact ih free
  | endless c s quote endless =>
      rw [unfinished?_open quote endless] at free
      cases free

theorem exists_of_unfinished {t literal : Text} (inside : unfinished? rule t = some literal) :
    ∃ before quote body, t = before ++ quote :: body ∧ literal = quote :: body ∧ unfinished? rule before = none ∧
      isQuote quote = true ∧ afterLiteral? rule quote [quote] body = none := by
  induction t using literal_induct rule with
  | nil =>
      rw [unfinished?] at inside
      cases inside
  | code c t code ih =>
      rw [unfinished?_code code] at inside
      obtain ⟨before, quote, body, rfl, found, free, rest⟩ := ih inside
      exact ⟨c :: before, quote, body, rfl, found, (unfinished?_code code before).trans free, rest⟩
  | literal c t rest quote ends ih =>
      rw [unfinished?_literal quote ends] at inside
      obtain ⟨part, rfl, reads⟩ := exists_of_afterLiteral? ends
      obtain ⟨before, inner, body, rfl, found, free, isInner⟩ := ih inside
      have skipped : unfinished? rule (c :: (part ++ before)) = none :=
        (unfinished?_literal quote (reads before)).trans free
      exact ⟨c :: (part ++ before), inner, body, by simp, found, skipped, isInner⟩
  | endless c t quote endless =>
      rw [unfinished?_open quote endless] at inside
      cases inside
      exact ⟨[], c, t, rfl, rfl, by rw [unfinished?], quote, endless⟩

/-! ## One more code point at the end -/

theorem afterLiteral?_concat {quote : CodePoint} {before t : Text} (endless : afterLiteral? rule quote before t = none)
    (c : CodePoint) : afterLiteral? rule quote before (t ++ [c]) =
      if c = quote ∧ rule (t.reverse ++ before) = false then some [] else none := by
  induction t generalizing before with
  | nil => rfl
  | cons d t ih =>
      unfold afterLiteral? at endless
      split at endless
      · cases endless
      · rename_i goesOn
        rw [List.cons_append, afterLiteral?, if_neg goesOn, ih endless, List.reverse_cons, List.append_assoc,
          List.singleton_append]

theorem concat_of_free {t : Text} (free : unfinished? rule t = none) (c : CodePoint) :
    unfinished? rule (t ++ [c]) = (if isQuote c then some [c] else none) ∧
    bare rule (t ++ [c]) = bare rule t ++ (if isQuote c then [] else [c]) := by
  rw [(append_of_free free [c]).1, (append_of_free free [c]).2]
  cases quote : isQuote c with
  | false => simp [unfinished?_code quote, bare_code quote, unfinished?, bare]
  | true =>
      have endless : afterLiteral? rule c [c] [] = none := rfl
      simp [unfinished?_open quote endless, bare_open quote endless]

theorem concat_of_closes {t literal : Text} (inside : unfinished? rule t = some literal) {c : CodePoint}
    (ends : closes rule literal c) :
    unfinished? rule (t ++ [c]) = none ∧ bare rule (t ++ [c]) = bare rule t := by
  obtain ⟨before, quote, body, rfl, rfl, free, isQuote, endless⟩ := exists_of_unfinished inside
  obtain ⟨same, unescaped⟩ := ends
  have closed : afterLiteral? rule quote [quote] (body ++ [c]) = some [] := by
    rw [afterLiteral?_concat endless]
    rw [List.reverse_cons] at unescaped
    exact if_pos ⟨(Option.some.inj same).symm, unescaped⟩
  rw [List.append_assoc, List.cons_append, (append_of_free free _).1, (append_of_free free _).2,
    (append_of_free free _).2, unfinished?_literal isQuote closed, bare_literal isQuote closed,
    bare_open isQuote endless]
  simp [unfinished?, bare]

theorem concat_of_not_closes {t literal : Text} (inside : unfinished? rule t = some literal) {c : CodePoint}
    (goesOn : ¬ closes rule literal c) :
    unfinished? rule (t ++ [c]) = some (literal ++ [c]) ∧ bare rule (t ++ [c]) = bare rule t := by
  obtain ⟨before, quote, body, rfl, rfl, free, isQuote, endless⟩ := exists_of_unfinished inside
  have stillOpen : afterLiteral? rule quote [quote] (body ++ [c]) = none := by
    rw [afterLiteral?_concat endless]
    refine if_neg fun ends => goesOn ⟨congrArg some ends.1.symm, ?_⟩
    rw [List.reverse_cons]
    exact ends.2
  rw [List.append_assoc, List.cons_append, (append_of_free free _).1, (append_of_free free _).2,
    (append_of_free free _).2, unfinished?_open isQuote stillOpen, bare_open isQuote stillOpen,
    bare_open isQuote endless]
  exact ⟨rfl, rfl⟩

theorem bare_concat (rule : EscapeRule) (t : Text) (c : CodePoint) :
    bare rule (t ++ [c]) = bare rule t ∨ bare rule (t ++ [c]) = bare rule t ++ [c] := by
  cases inside : unfinished? rule t with
  | none =>
      rw [(concat_of_free inside c).2]
      split
      · exact .inl (List.append_nil _)
      · exact .inr rfl
  | some literal =>
      by_cases ends : closes rule literal c
      · exact .inl (concat_of_closes inside ends).2
      · exact .inl (concat_of_not_closes inside ends).2

theorem bare_prefix (rule : EscapeRule) (s t : Text) : bare rule s <+: bare rule (s ++ t) := by
  induction t generalizing s with
  | nil => simp
  | cons c t ih =>
      have later := ih (s ++ [c])
      rw [List.append_assoc, List.singleton_append] at later
      rcases bare_concat rule s c with same | longer
      · exact same ▸ later
      · exact (longer ▸ List.prefix_append _ [c]).trans later

end Bytebeat.Layout
