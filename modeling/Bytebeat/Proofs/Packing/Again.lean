import Bytebeat.Proofs.Packing.Padding
import Bytebeat.Proofs.Packing.Sources

namespace Bytebeat.Packing

def Followed (part t : Text) : Prop := ∃ before after, t = before ++ part ++ after ∧ ∃ c ∈ after, c ≠ ' '

variable {part t s : Text} {c : CodePoint}

theorem followed_cons_iff : Followed part (c :: t) ↔
    (∃ after, c :: t = part ++ after ∧ ∃ d ∈ after, d ≠ ' ') ∨ Followed part t := by
  constructor
  · rintro ⟨before, after, split, follows⟩
    cases before with
    | nil => exact .inl ⟨after, split, follows⟩
    | cons d before =>
        obtain ⟨rfl, rest⟩ := List.cons.inj split
        exact .inr ⟨before, after, rest, follows⟩
  · rintro (⟨after, split, follows⟩ | ⟨before, after, rfl, follows⟩)
    · exact ⟨[], after, split, follows⟩
    · exact ⟨c :: before, after, rfl, follows⟩

theorem not_followed_nil : ¬ Followed part [] := by
  rintro ⟨before, after, split, d, mem, -⟩
  rw [(List.append_eq_nil_iff.mp split.symm).2] at mem
  cases mem

theorem followed_kept_iff (alone : c ≠ ',' ∨ t.head? ≠ some (' ' : CodePoint)) :
    Followed ", " (c :: t) ↔ Followed ", " t := by
  rw [followed_cons_iff]
  constructor
  · rintro (⟨after, split, -⟩ | later)
    · cases split
      exact alone.elim (absurd rfl) (absurd rfl)
    · exact later
  · exact .inr

theorem followed_comma_iff : Followed ", " (',' :: ' ' :: t) ↔ ∃ d ∈ t, d ≠ ' ' := by
  rw [followed_cons_iff, followed_kept_iff (.inl (by decide))]
  constructor
  · rintro (⟨after, split, follows⟩ | ⟨before, after, rfl, d, mem, ne⟩)
    · cases split
      exact follows
    · exact ⟨d, List.mem_append_right _ mem, ne⟩
  · exact fun follows => .inl ⟨t, rfl, follows⟩

theorem followed_append_spaces_iff (spaces : ∀ d ∈ s, d = ' ') : Followed part (t ++ s) ↔ Followed part t := by
  constructor
  · rintro ⟨before, after, split, d, mem, ne⟩
    rcases List.append_eq_append_iff.mp split with ⟨rest, -, inside⟩ | ⟨rest, outside, rfl⟩
    · exact absurd (spaces d (by rw [inside]; exact List.mem_append_right _ mem)) ne
    · refine ⟨before, rest, outside, d, ?_, ne⟩
      exact (List.mem_append.mp mem).resolve_right fun space => ne (spaces d space)
  · rintro ⟨before, after, rfl, d, mem, ne⟩
    exact ⟨before, after ++ s, List.append_assoc _ _ _, d, List.mem_append_left _ mem, ne⟩

theorem eq_of_collapse_eq_commaSpace (collapsed : collapse t = (", " : Text)) : t = ",  " := by
  induction t using collapse_induct with
  | nil => cases collapsed
  | comma t ih =>
      rw [collapse_comma] at collapsed
      have rest : collapse t = " " := (List.cons.inj collapsed).2
      rw [eq_of_collapse_of_no_comma rest (by decide)]
      rfl
  | kept d t alone ih =>
      rw [collapse_cons alone] at collapsed
      obtain ⟨rfl, rest⟩ := List.cons.inj collapsed
      rw [eq_of_collapse_of_no_comma rest (by decide)] at alone
      exact alone.elim (absurd rfl) (absurd rfl)

theorem followed_collapse_iff : Followed ", " (collapse t) ↔ Followed ",  " t := by
  constructor
  · rintro ⟨before, after, collapsed, d, mem, ne⟩
    obtain ⟨start, r, rfl, inside, rfl⟩ := exists_of_collapse_eq_append collapsed
    obtain ⟨s, q, rfl, -, middle⟩ := exists_of_collapse_eq_append inside
    rw [eq_of_collapse_eq_commaSpace middle]
    exact ⟨s, r, rfl, d, (mem_collapse_iff ne).mp mem, ne⟩
  · rintro ⟨before, after, rfl, d, mem, ne⟩
    refine ⟨collapse before, collapse after, ?_, d, (mem_collapse_iff ne).mpr mem, ne⟩
    have middle : collapse ((",  " : Text) ++ after) = (", " : Text) ++ collapse after := by
      have space : collapse ((" " : Text) ++ after) = (" " : Text) ++ collapse after :=
        collapse_cons (.inl (by decide))
      exact (collapse_comma _).trans (congrArg (List.cons _) space)
    have seam : ((",  " : Text) ++ after).head? ≠ some (' ' : CodePoint) := by
      show some (',' : CodePoint) ≠ some ' '
      decide
    rw [List.append_assoc, collapse_append (.inr seam), middle, List.append_assoc]

/-! ## Texts that collapse to their own beginning -/

theorem spaces_of_collapse_append (same : collapse t ++ s = (' ' : CodePoint) :: t) : ∀ d ∈ t, d = ' ' := by
  induction t using collapse_induct with
  | nil => exact nofun
  | comma t ih =>
      rw [collapse_comma] at same
      exact absurd (List.cons.inj same).1 (by decide)
  | kept c t alone ih =>
      rw [collapse_cons alone] at same
      obtain ⟨rfl, rest⟩ := List.cons.inj same
      exact List.forall_mem_cons.mpr ⟨rfl, ih rest⟩

theorem not_followed_of_collapse_append (same : collapse t ++ s = t) : ¬ Followed ", " t := by
  induction t using collapse_induct with
  | nil => exact not_followed_nil
  | comma t ih =>
      rw [collapse_comma] at same
      have spaces := spaces_of_collapse_append (List.cons.inj same).2
      rw [followed_comma_iff]
      rintro ⟨d, mem, ne⟩
      exact ne (spaces d mem)
  | kept c t alone ih =>
      rw [collapse_cons alone] at same
      rw [followed_kept_iff alone]
      exact ih (List.cons.inj same).2

theorem collapse_of_not_followed (settled : ¬ Followed ", " t) : collapse t = t ∨ collapse t ++ " " = t := by
  induction t using collapse_induct with
  | nil => exact .inl rfl
  | comma t ih =>
      rw [followed_comma_iff] at settled
      have spaces : t = List.replicate t.length (' ' : CodePoint) :=
        List.eq_replicate_of_mem fun d mem => Classical.byContradiction fun ne => settled ⟨d, mem, ne⟩
      have noComma : (',' : CodePoint) ∉ t := fun mem => settled ⟨_, mem, by decide⟩
      refine .inr ?_
      rw [collapse_comma, collapse_of_no_comma noComma, List.cons_append, spaces]
      exact congrArg (List.cons _) List.replicate_succ'.symm
  | kept c t alone ih =>
      rw [followed_kept_iff alone] at settled
      rw [collapse_cons alone, List.cons_append]
      exact (ih settled).imp (congrArg (c :: ·)) (congrArg (c :: ·))

/-! ## Normal forms -/

theorem normalize_eq_self_iff (even : t.units.length % 2 = 0) : normalize t = t ↔ ¬ Followed ", " t := by
  rw [normalize, pad_of_even even]
  constructor
  · intro same
    rw [pad_eq_append] at same
    exact not_followed_of_collapse_append same
  · intro settled
    have space : (Text.units " ").length = 1 := rfl
    rcases collapse_of_not_followed settled with same | shorter
    · rw [same, pad_of_even even]
    · have length := congrArg (fun t : Text => t.units.length) shorter
      simp only [Text.units_append, List.length_append, space] at length
      have odd : (collapse t).units.length % 2 = 1 := by omega
      rw [pad, if_pos odd, shorter]

theorem normalize_normalize_iff (code : Text) :
    normalize (normalize code) = normalize code ↔ ¬ Followed ",  " code := by
  rw [normalize_eq_self_iff (even_units_normalize code), normalize_eq_collapse_append,
    followed_append_spaces_iff fun _ => List.eq_of_mem_replicate, followed_collapse_iff]

theorem Reversible.normalize {code : Text} (reversible : Reversible code)
    (settled : Packing.normalize (Packing.normalize code) = Packing.normalize code) :
    Reversible (Packing.normalize code) := by
  refine ⟨fun c mem => Nat.le_of_lt_succ (normalize_val_lt_iff.mpr reversible.latin_lt c mem), ?_⟩
  rw [settled]
  exact reversible.noZero

/-! ## Wrappers -/

theorem encode_normalize_iff {code : Text} (latin : ∀ c ∈ code, c.val < 0x100) :
    encode (normalize code) = encode code ↔ ¬ Followed ",  " code := by
  rw [← normalize_normalize_iff]
  constructor
  · exact normalize_eq_of_encode_eq (normalize_val_lt_iff.mpr latin) latin
  · intro same
    rw [encode, wrap, same]
    rfl

end Bytebeat.Packing
