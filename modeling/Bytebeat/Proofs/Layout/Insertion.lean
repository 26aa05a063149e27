import Bytebeat.Text.Basic

namespace Bytebeat

theorem Text.occurrences_eq_count (c : CodePoint) (t : Text) : t.occurrences c = t.count c := by
  have counted : ∀ (t : Text) (n : Nat), t.foldl (fun n d => if d = c then n + 1 else n) n = n + t.count c := by
    intro t
    induction t with
    | nil => simp
    | cons d t ih =>
        intro n
        rw [List.foldl_cons, ih, List.count_cons]
        by_cases same : d = c
        · simp only [same, if_true, beq_self_eq_true]
          omega
        · simp [same]
  exact (counted t 0).trans (Nat.zero_add _)

namespace Layout

/-- A text from position `i` on with a line break put in after each position of a set. -/
def insertBreaks (p : Nat → Prop) [DecidablePred p] (i : Nat) : Text → Text
  | [] => []
  | c :: t => if p i then c :: '\n' :: insertBreaks p (i + 1) t else c :: insertBreaks p (i + 1) t

/-- A text with each comma and line break given way to the comma. -/
def joinLines : Text → Text
  | c :: d :: t => if c = ',' ∧ d = '\n' then c :: joinLines t else c :: joinLines (d :: t)
  | t => t

/-- Each chosen position, counted from `i`, is that of a comma with no line break after it. -/
def AfterCommas (p : Nat → Prop) (i : Nat) (t : Text) : Prop :=
  ∀ k, p (i + k) → t[k]? = some (',' : CodePoint) ∧ t[k + 1]? ≠ some ('\n' : CodePoint)

variable {p : Nat → Prop}

theorem AfterCommas.tail {i : Nat} {c : CodePoint} {t : Text} (commas : AfterCommas p i (c :: t)) :
    AfterCommas p (i + 1) t := by
  intro k chosen
  rw [Nat.add_assoc, Nat.add_comm 1] at chosen
  exact commas (k + 1) chosen

variable [DecidablePred p]

theorem sublist_insertBreaks (i : Nat) (t : Text) : t.Sublist (insertBreaks p i t) := by
  induction t generalizing i with
  | nil => exact List.Sublist.refl _
  | cons c t ih =>
      unfold insertBreaks
      split
      · exact ((ih (i + 1)).cons _).cons_cons c
      · exact (ih (i + 1)).cons_cons c

theorem countP_insertBreaks (q : CodePoint → Bool) (i : Nat) (t : Text) : (insertBreaks p i t).countP q =
    t.countP q + if q '\n' then (List.range' i t.length).countP p else 0 := by
  induction t generalizing i with
  | nil => simp [insertBreaks]
  | cons c t ih =>
      rw [List.length_cons, List.range'_succ, List.countP_cons]
      unfold insertBreaks
      by_cases chosen : p i
      · simp only [chosen, if_true, List.countP_cons, ih, decide_true]
        split <;> omega
      · simp only [chosen, if_false, List.countP_cons, ih, decide_false, Bool.false_eq_true]
        split <;> omega

theorem count_insertBreaks (i : Nat) (t : Text) : (insertBreaks p i t).count ('\n' : CodePoint) =
    t.count ('\n' : CodePoint) + (List.range' i t.length).countP p :=
  countP_insertBreaks _ i t

theorem length_insertBreaks (i : Nat) (t : Text) :
    (insertBreaks p i t).length = t.length + (List.range' i t.length).countP p := by
  have all := countP_insertBreaks (p := p) (fun _ => true) i t
  simpa using all

theorem insertBreaks_eq_self_iff (i : Nat) (t : Text) :
    insertBreaks p i t = t ↔ (List.range' i t.length).countP p = 0 := by
  have longer := length_insertBreaks (p := p) i t
  constructor
  · intro same
    rw [same] at longer
    omega
  · intro none
    rw [none] at longer
    exact ((sublist_insertBreaks i t).eq_of_length longer.symm).symm

theorem exists_insertBreaks_cons (i : Nat) (c : CodePoint) (t : Text) :
    ∃ later, insertBreaks p i (c :: t) = c :: later := by
  unfold insertBreaks
  split
  · exact ⟨_, rfl⟩
  · exact ⟨_, rfl⟩

theorem mem_insertBreaks {i : Nat} {t : Text} {c : CodePoint} (mem : c ∈ insertBreaks p i t) : c ∈ t ∨ c = '\n' := by
  induction t generalizing i with
  | nil => exact .inl mem
  | cons d t ih =>
      unfold insertBreaks at mem
      split at mem
      · rcases List.mem_cons.mp mem with rfl | rest
        · exact .inl List.mem_cons_self
        · rcases List.mem_cons.mp rest with lineBreak | later
          · exact .inr lineBreak
          · exact (ih later).imp_left (List.mem_cons_of_mem d)
      · rcases List.mem_cons.mp mem with rfl | later
        · exact .inl List.mem_cons_self
        · exact (ih later).imp_left (List.mem_cons_of_mem d)

theorem joinLines_insertBreaks {i : Nat} {t : Text} (commas : AfterCommas p i t) :
    joinLines (insertBreaks p i t) = joinLines t := by
  induction t using joinLines.induct generalizing i with
  | case1 c d t joined ih =>
      obtain ⟨rfl, rfl⟩ := joined
      -- The comma has its line break already, and that is no comma.
      have comma : ¬ p i := fun chosen => (commas 0 chosen).2 rfl
      have lineBreak : ¬ p (i + 1) := fun chosen => absurd (commas 1 chosen).1 (by simp +decide)
      rw [insertBreaks, if_neg comma, insertBreaks, if_neg lineBreak, joinLines, if_pos ⟨rfl, rfl⟩, joinLines,
        if_pos ⟨rfl, rfl⟩, ih commas.tail.tail]
  | case2 c d t apart ih =>
      obtain ⟨later, rest⟩ := exists_insertBreaks_cons (p := p) (i + 1) d t
      rw [insertBreaks, rest]
      split
      · rename_i chosen
        have comma : c = ',' := Option.some.inj (commas 0 chosen).1
        rw [joinLines, if_pos ⟨comma, rfl⟩, joinLines, if_neg apart, ← rest, ih commas.tail]
      · rw [joinLines, joinLines, if_neg apart, if_neg apart, ← rest, ih commas.tail]
  | case3 t short =>
      match t with
      | [] => rfl
      | [c] =>
          rw [insertBreaks]
          split
          · rename_i chosen
            have comma : c = ',' := Option.some.inj (commas 0 chosen).1
            rw [joinLines, if_pos ⟨comma, rfl⟩]
            rfl
          · rfl
      | c :: d :: t => exact absurd rfl (short c d t)

end Layout
end Bytebeat
