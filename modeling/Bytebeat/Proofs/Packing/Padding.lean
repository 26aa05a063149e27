import Bytebeat.Proofs.Packing.Repack

namespace Bytebeat
namespace Text

def places (part : Text) : Text → Nat
  | [] => 0
  | c :: t => (if part <+: c :: t then 1 else 0) + places part t

/-- A text is taken apart wherever a separator stands in it. -/
structure Splits (separator t : Text) (parts : List Text) : Prop where
  joined : join separator parts = t
  apart : ∀ part ∈ parts, ¬ separator <:+: part

theorem join_cons_cons (separator p q : Text) (parts : List Text) :
    join separator (p :: q :: parts) = p ++ (separator ++ join separator (q :: parts)) := by
  simp [join]

theorem join_cons (separator : Text) (c : CodePoint) (p : Text) (parts : List Text) :
    join separator ((c :: p) :: parts) = c :: join separator (p :: parts) := by
  cases parts with
  | nil => simp [join]
  | cons q parts => rw [join_cons_cons, join_cons_cons, List.cons_append]

end Text

namespace Packing
open Text

variable {c : CodePoint} {t : Text}

theorem prefix_commaSpace_iff : (", " : Text) <+: c :: t ↔ c = ',' ∧ t.head? = some (' ' : CodePoint) := by
  show [(',' : CodePoint), ' '] <+: c :: t ↔ _
  rw [List.cons_prefix_cons, eq_comm]
  cases t <;> simp [eq_comm]

/-! ## Spaces that are collapsed -/

theorem places_comma (t : Text) : places ", " (',' :: ' ' :: t) = places ", " t + 1 := by
  have here : (", " : Text) <+: ',' :: ' ' :: t := List.prefix_append _ t
  have notNext : ¬ (", " : Text) <+: ' ' :: t := fun start => absurd (prefix_commaSpace_iff.mp start).1 (by decide)
  rw [places, places, if_pos here, if_neg notNext, Nat.zero_add, Nat.add_comm]

theorem places_kept (alone : c ≠ ',' ∨ t.head? ≠ some (' ' : CodePoint)) :
    places ", " (c :: t) = places ", " t := by
  have notHere : ¬ (", " : Text) <+: c :: t := fun start =>
    alone.elim (· (prefix_commaSpace_iff.mp start).1) (· (prefix_commaSpace_iff.mp start).2)
  rw [places, if_neg notHere, Nat.zero_add]

theorem length_units_collapse (t : Text) : (collapse t).units.length + places ", " t = t.units.length := by
  induction t using collapse_induct with
  | nil => rfl
  | comma t ih =>
      have comma : (CodePoint.units ',').length = 1 := rfl
      have space : (CodePoint.units ' ').length = 1 := rfl
      simp only [collapse_comma, places_comma, units_cons, List.length_append, comma, space]
      omega
  | kept c t alone ih =>
      simp only [collapse_cons alone, places_kept alone, units_cons, List.length_append]
      omega

/-! ## Spaces that are put behind -/

theorem pad_eq_append (t : Text) : pad t = t ++ List.replicate (t.units.length % 2) (' ' : CodePoint) := by
  unfold pad
  split
  · rename_i odd
    rw [odd]
    rfl
  · have even : t.units.length % 2 = 0 := by omega
    rw [even, List.replicate_zero, List.append_nil]

theorem collapse_append_space_of_comma (last : t.getLast? = some (',' : CodePoint)) :
    collapse (t ++ " ") = collapse t := by
  obtain ⟨s, rfl⟩ := List.getLast?_eq_some_iff.mp last
  have apart (r : Text) : collapse (s ++ (',' :: r : Text)) = collapse s ++ collapse (',' :: r) :=
    collapse_append (.inr (by simp +decide))
  rw [List.append_assoc, List.singleton_append, apart, apart]
  rfl

theorem collapse_append_space (notLast : t.getLast? ≠ some (',' : CodePoint)) :
    collapse (t ++ " ") = collapse t ++ " " := by
  rw [collapse_append (.inl notLast)]
  rfl

/-- How many spaces are put behind code: by its number of units, its last sign and what is collapsed in it. -/
def padding (code : Text) : Nat :=
  if code.units.length % 2 = 0 then places ", " code % 2
  else if code.getLast? = some (',' : CodePoint) then 1 - places ", " code % 2
  else 1 + places ", " code % 2

theorem normalize_eq_collapse_append (code : Text) :
    normalize code = collapse code ++ List.replicate (padding code) (' ' : CodePoint) := by
  have shorter := length_units_collapse code
  unfold padding
  split
  · rename_i even
    have parity : (collapse code).units.length % 2 = places ", " code % 2 := by omega
    rw [normalize, pad_of_even even, pad_eq_append, parity]
  · rename_i odd
    have padded : pad code = code ++ " " := if_pos (by omega)
    rw [normalize, padded]
    split
    · rename_i last
      have parity : (collapse code).units.length % 2 = 1 - places ", " code % 2 := by omega
      rw [collapse_append_space_of_comma last, pad_eq_append, parity]
    · rename_i notLast
      have space : (Text.units " ").length = 1 := rfl
      have parity : (collapse code ++ " ").units.length % 2 = places ", " code % 2 := by
        rw [units_append, List.length_append, space]
        omega
      rw [collapse_append_space notLast, pad_eq_append, parity, List.append_assoc, Nat.add_comm, List.replicate_succ]
      rfl

theorem places_eq_zero {part : Text} (absent : ¬ part <:+: t) : places part t = 0 := by
  induction t with
  | nil => rfl
  | cons c t ih =>
      rw [List.infix_cons_iff, not_or] at absent
      rw [places, if_neg absent.1, ih absent.2]

theorem normalize_of_lossless {code : Text} (lossless : ¬ (", " : Text) <:+: code) :
    normalize code = code ++ if code.units.length % 2 = 0 then [] else (" " : Text) := by
  rw [normalize_eq_collapse_append, collapse_eq_self lossless, padding, places_eq_zero lossless]
  split
  · rfl
  · split <;> rfl

/-! ## Code taken apart -/

theorem collapse_join {parts : List Text} (apart : ∀ part ∈ parts, ¬ (", " : Text) <:+: part) :
    collapse (join ", " parts) = join "," parts := by
  have separator (t : Text) : collapse ((", " : Text) ++ t) = ("," : Text) ++ collapse t := collapse_comma t
  induction parts with
  | nil => rfl
  | cons p parts ih =>
      rw [List.forall_mem_cons] at apart
      have whole := collapse_eq_self apart.1
      cases parts with
      | nil => simpa [join] using whole
      | cons q parts =>
          have seam : ((", " : Text) ++ join ", " (q :: parts)).head? ≠ some (' ' : CodePoint) := by
            simp +decide [Text.ofString]
          rw [join_cons_cons, join_cons_cons, collapse_append (.inr seam), whole, separator, ih apart.2]

theorem exists_splits (t : Text) : ∃ parts, Splits ", " t parts ∧ parts.length = places ", " t + 1 := by
  induction t using collapse_induct with
  | nil => exact ⟨[[]], ⟨rfl, by decide⟩, rfl⟩
  | comma t ih =>
      obtain ⟨parts, ⟨rfl, apart⟩, length⟩ := ih
      obtain ⟨p, rest, rfl⟩ := List.exists_cons_of_length_eq_add_one length
      refine ⟨[] :: p :: rest, ⟨join_cons_cons _ _ _ _, List.forall_mem_cons.mpr ⟨by decide, apart⟩⟩, ?_⟩
      rw [places_comma, List.length_cons, length]
  | kept c t alone ih =>
      obtain ⟨parts, ⟨rfl, apart⟩, length⟩ := ih
      obtain ⟨p, rest, rfl⟩ := List.exists_cons_of_length_eq_add_one length
      rw [List.forall_mem_cons] at apart
      have whole : ¬ (", " : Text) <:+: c :: p := by
        intro inside
        rcases List.infix_cons_iff.mp inside with start | later
        · obtain ⟨comma, space⟩ := prefix_commaSpace_iff.mp start
          obtain ⟨p, rfl⟩ := List.head?_eq_some_iff.mp space
          rw [join_cons] at alone
          exact alone.elim (· comma) (· rfl)
        · exact apart.1 later
      refine ⟨(c :: p) :: rest, ⟨join_cons _ _ _ _, List.forall_mem_cons.mpr ⟨whole, apart.2⟩⟩, ?_⟩
      rw [places_kept alone, List.length_cons, ← length, List.length_cons]

end Packing
end Bytebeat
