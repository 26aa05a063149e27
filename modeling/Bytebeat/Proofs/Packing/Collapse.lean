import Bytebeat.Packing.Codec

namespace Bytebeat.Packing

theorem collapse_induct {motive : Text → Prop} (nil : motive [])
    (comma : ∀ t : Text, motive t → motive (',' :: ' ' :: t))
    (kept : ∀ (c : CodePoint) (t : Text), (c ≠ ',' ∨ t.head? ≠ some (' ' : CodePoint)) → motive t → motive (c :: t)) :
    ∀ t, motive t
  | [] => nil
  | [c] => kept c [] (.inr (by simp)) nil
  | c :: d :: t => by
    by_cases pair : c = ',' ∧ d = ' '
    · obtain ⟨rfl, rfl⟩ := pair
      exact comma t (collapse_induct nil comma kept t)
    · refine kept c (d :: t) ?_ (collapse_induct nil comma kept (d :: t))
      simpa [Classical.not_and_iff_not_or_not, -not_and] using pair

theorem mem_pad_iff {t : Text} {c : CodePoint} (noSpace : c ≠ ' ') : c ∈ pad t ↔ c ∈ t := by
  have space : c ∉ (" " : Text) := fun mem => noSpace (List.mem_singleton.mp mem)
  unfold pad
  split
  · simp [space]
  · rfl

theorem mem_collapse_iff {t : Text} {c : CodePoint} (noSpace : c ≠ ' ') : c ∈ collapse t ↔ c ∈ t := by
  induction t using collapse_induct with
  | nil => rfl
  | comma t ih => simp [collapse_comma, ih, noSpace]
  | kept d t apart ih => simp [collapse_cons apart, ih]

theorem mem_normalize_iff {code : Text} {c : CodePoint} (noSpace : c ≠ ' ') : c ∈ normalize code ↔ c ∈ code := by
  rw [normalize, mem_pad_iff noSpace, mem_collapse_iff noSpace, mem_pad_iff noSpace]

theorem normalize_val_lt_iff {code : Text} : (∀ c ∈ normalize code, c.val < 0x100) ↔ ∀ c ∈ code, c.val < 0x100 := by
  have space : (' ' : CodePoint).val < 0x100 := by decide
  constructor
  · intro small c mem
    by_cases isSpace : c = ' '
    · exact isSpace ▸ space
    · exact small c ((mem_normalize_iff isSpace).mpr mem)
  · intro small c mem
    by_cases isSpace : c = ' '
    · exact isSpace ▸ space
    · exact small c ((mem_normalize_iff isSpace).mp mem)

theorem collapse_append {s t : Text} (apart : s.getLast? ≠ some (',' : CodePoint) ∨ t.head? ≠ some (' ' : CodePoint)) :
    collapse (s ++ t) = collapse s ++ collapse t := by
  induction s using collapse_induct with
  | nil => rfl
  | comma s ih =>
      have later : s.getLast? ≠ some (',' : CodePoint) ∨ t.head? ≠ some (' ' : CodePoint) := by
        refine apart.imp_left fun last ends => last ?_
        rw [List.getLast?_cons_cons, List.getLast?_cons, ends]
        rfl
      rw [List.cons_append, List.cons_append, collapse_comma, collapse_comma, ih later, List.cons_append]
  | kept c s alone ih =>
      cases s with
      | nil =>
          have meets : c ≠ ',' ∨ t.head? ≠ some (' ' : CodePoint) :=
            apart.imp_left fun last same => last (congrArg some same)
          exact collapse_cons meets
      | cons d s =>
          have later : (d :: s).getLast? ≠ some (',' : CodePoint) ∨ t.head? ≠ some (' ' : CodePoint) := apart
          have meets : c ≠ ',' ∨ (d :: s ++ t).head? ≠ some (' ' : CodePoint) := alone
          rw [List.cons_append, collapse_cons meets, ih later, collapse_cons alone, List.cons_append]

theorem exists_of_collapse_eq_append {t x y : Text} (collapsed : collapse t = x ++ y) :
    ∃ s r, t = s ++ r ∧ collapse s = x ∧ collapse r = y := by
  induction t using collapse_induct generalizing x with
  | nil =>
      obtain ⟨rfl, rfl⟩ := List.append_eq_nil_iff.mp collapsed.symm
      exact ⟨[], [], rfl, rfl, rfl⟩
  | comma t ih =>
      cases x with
      | nil => exact ⟨[], _, rfl, rfl, collapsed⟩
      | cons d x =>
          rw [collapse_comma, List.cons_append] at collapsed
          obtain ⟨rfl, rest⟩ := List.cons.inj collapsed
          obtain ⟨s, r, rfl, first, second⟩ := ih rest
          exact ⟨',' :: ' ' :: s, r, rfl, by rw [collapse_comma, first], second⟩
  | kept c t alone ih =>
      cases x with
      | nil => exact ⟨[], _, rfl, rfl, collapsed⟩
      | cons d x =>
          rw [collapse_cons alone, List.cons_append] at collapsed
          obtain ⟨rfl, rest⟩ := List.cons.inj collapsed
          obtain ⟨s, r, rfl, first, second⟩ := ih rest
          have alone' : c ≠ ',' ∨ s.head? ≠ some (' ' : CodePoint) := by
            refine alone.imp_right fun noSpace space => noSpace ?_
            rw [List.head?_append, space]
            rfl
          exact ⟨c :: s, r, rfl, by rw [collapse_cons alone', first], second⟩

/-! ## Texts with no comma, or with one -/

theorem collapse_eq_self {t : Text} (apart : ¬ (", " : Text) <:+: t) : collapse t = t := by
  induction t using collapse_induct with
  | nil => rfl
  | comma t => exact absurd (List.prefix_append (", " : Text) t).isInfix apart
  | kept c t alone ih => rw [collapse_cons alone, ih fun inside => apart (List.infix_cons_iff.mpr (.inr inside))]

theorem collapse_of_no_comma {t : Text} (noComma : (',' : CodePoint) ∉ t) : collapse t = t :=
  collapse_eq_self fun inside => noComma (inside.subset List.mem_cons_self)

theorem collapse_append_of_no_comma {s : Text} (noComma : (',' : CodePoint) ∉ s) (t : Text) :
    collapse (s ++ t) = s ++ collapse t := by
  rw [collapse_append (.inl fun last => noComma (List.mem_of_getLast? last)), collapse_of_no_comma noComma]

theorem eq_of_collapse_of_no_comma {t x : Text} (collapsed : collapse t = x) (noComma : (',' : CodePoint) ∉ x) :
    t = x := by
  rw [← collapsed, mem_collapse_iff (by decide)] at noComma
  rw [← collapsed, collapse_of_no_comma noComma]

theorem eq_of_collapse_eq_comma {t : Text} (collapsed : collapse t = [(',' : CodePoint)]) :
    t = [(',' : CodePoint)] ∨ t = ([',', ' '] : List CodePoint) := by
  induction t using collapse_induct with
  | nil => cases collapsed
  | comma t ih =>
      rw [collapse_comma] at collapsed
      rw [eq_of_collapse_of_no_comma (List.cons.inj collapsed).2 (by simp)]
      exact .inr rfl
  | kept c t alone ih =>
      rw [collapse_cons alone] at collapsed
      obtain ⟨rfl, rest⟩ := List.cons.inj collapsed
      rw [eq_of_collapse_of_no_comma rest (by simp)]
      exact .inl rfl

end Bytebeat.Packing
