import Bytebeat.Proofs.Packing.Sequences

namespace Bytebeat.Packing

theorem mark_append {s : Text} (noU : ('u' : CodePoint) ∉ s) (t : Text) : mark (s ++ t) = s ++ mark t := by
  induction s with
  | nil => rfl
  | cons c s ih =>
      rw [List.mem_cons, not_or] at noU
      obtain ⟨ne, rest⟩ := noU
      rw [List.cons_append, mark_cons (Ne.symm ne), ih rest, List.cons_append]

theorem u_not_mem_shortSequence (n : Nat) : ('u' : CodePoint) ∉ shortSequence n := by
  rw [shortSequence_eq]
  simp only [List.mem_cons, List.not_mem_nil, or_false, not_or]
  exact ⟨by decide, (CodePoint.ofHexDigit_ne_u _).symm, (CodePoint.ofHexDigit_ne_u _).symm⟩

theorem mark_longSequence (n : Nat) (t : Text) :
    mark (longSequence n ++ t) = shortSequence (n / 0x100) ++ (shortSequence n ++ mark t) := by
  have digits : mark (CodePoint.ofHexDigit 'A' (n / 16) :: CodePoint.ofHexDigit 'A' n :: t) =
      CodePoint.ofHexDigit 'A' (n / 16) :: CodePoint.ofHexDigit 'A' n :: mark t := by
    rw [mark_cons (CodePoint.ofHexDigit_ne_u _), mark_cons (CodePoint.ofHexDigit_ne_u _)]
  rw [longSequence_eq]
  simp only [List.cons_append, List.nil_append]
  rw [mark_cons (by decide), mark_u, digits, shortSequence_eq, shortSequence_eq]
  rfl

theorem mark_of_length_le : ∀ {t : Text}, t.length ≤ 2 → mark t = t
  | [], _ | [_], _ | [_, _], _ => rfl
  | _ :: _ :: _ :: _, long => absurd long (by simp)

theorem mark_induct {motive : Text → Prop} (short : ∀ t, t.length ≤ 2 → motive t)
    (taken : ∀ (a b : CodePoint) rest, motive rest → motive ('u' :: a :: b :: rest))
    (kept : ∀ (c : CodePoint) t, c ≠ 'u' → motive t → motive (c :: t)) : ∀ t, motive t
  | [] => short [] (Nat.zero_le 2)
  | [c] => short [c] (by simp)
  | [c, a] => short [c, a] (Nat.le_refl 2)
  | c :: a :: b :: rest => by
    by_cases isU : c = 'u'
    · subst isU
      exact taken a b rest (mark_induct short taken kept rest)
    · exact kept c (a :: b :: rest) isU (mark_induct short taken kept (a :: b :: rest))

theorem mem_mark {t : Text} {c : CodePoint} (mem : c ∈ mark t) : c ∈ t ∨ c = '%' := by
  induction t using mark_induct with
  | short t le => exact .inl (mark_of_length_le le ▸ mem)
  | taken a b rest ih =>
      rw [mark_u] at mem
      simp only [List.mem_cons] at mem ⊢
      rcases mem with h | h | h | h
      · exact .inl (.inr (.inl h))
      · exact .inl (.inr (.inr (.inl h)))
      · exact .inr h
      · exact (ih h).imp (fun inRest => .inr (.inr (.inr inRest))) id
  | kept d t ne ih =>
      rw [mark_cons ne, List.mem_cons] at mem
      rcases mem with rfl | h
      · exact .inl List.mem_cons_self
      · exact (ih h).imp (List.mem_cons_of_mem _) id

def Settled (s : Text) : Prop :=
  ∀ a b after, ('u' : CodePoint) :: a :: b :: after <:+ s → a = '%' ∨ b = '%'

theorem Settled.cons {c : CodePoint} {s : Text}
    (first : c = 'u' → ∀ a b after, s = a :: b :: after → a = '%' ∨ b = '%') (rest : Settled s) : Settled (c :: s) := by
  intro a b after suffix
  rcases List.suffix_cons_iff.mp suffix with equal | inner
  · obtain ⟨isU, tail⟩ := List.cons.inj equal
    exact first isU.symm a b after tail.symm
  · exact rest a b after inner

theorem Settled.cons_of_ne {c : CodePoint} {s : Text} (ne : c ≠ 'u') (rest : Settled s) : Settled (c :: s) :=
  rest.cons fun isU => absurd isU ne

theorem settled_of_length_le {s : Text} (short : s.length ≤ 2) : Settled s := by
  intro a b after suffix
  have := suffix.length_le
  simp only [List.length_cons] at this
  omega

theorem settled_mark (t : Text) : Settled (mark t) := by
  induction t using mark_induct with
  | short t le =>
      rw [mark_of_length_le le]
      exact settled_of_length_le le
  | taken a b rest ih =>
      rw [mark_u]
      -- If `b` is a `u`, the sign right after it is the percent sign, and if `a` is one, the second after it.
      have percent : Settled ('%' :: mark rest) := .cons_of_ne (by decide) ih
      have second : Settled (b :: '%' :: mark rest) :=
        percent.cons fun _ _ _ _ equal => .inl (List.cons.inj equal).1.symm
      exact second.cons fun _ _ _ _ equal => .inr (List.cons.inj (List.cons.inj equal).2).1.symm
  | kept c t ne ih =>
      rw [mark_cons ne]
      exact .cons_of_ne ne ih

theorem hexByte?_eq_none {a b : CodeUnit} (percent : a.codePoint = '%' ∨ b.codePoint = '%') : hexByte? a b = none := by
  have noDigit : ('%' : CodePoint).hexDigit? = none := by decide
  rcases percent with h | h
  · simp [hexByte?, h, noDigit]
  · simp [hexByte?, h, noDigit]

theorem longSequence?_of_settled {s : Text} (settled : Settled s) (narrow : ∀ c ∈ s, c.val < 0x10000)
    {before rest : List CodeUnit} (split : s.units = before ++ rest) : longSequence? rest = none := by
  unfold longSequence?
  split
  · rename_i u a b c d after
    by_cases isU : u.val = 0x75
    · have equal := Text.eq_append_of_units narrow split
      have first : u.codePoint = 'u' := CodePoint.ext isU
      have percent := settled a.codePoint b.codePoint _ ⟨before.map CodeUnit.codePoint, by
        rw [equal, List.map_cons, List.map_cons, List.map_cons, first]⟩
      rw [if_pos isU, hexWord?, hexByte?_eq_none percent]
      rfl
    · rw [if_neg isU]
  · rfl

end Bytebeat.Packing
