import Bytebeat.Proofs.Packing.Forms

/-!
Where escape sequences begin in a text and what unescaping makes of the whole text.

A place is covered if it belongs to a sequence that begins before it. No sequence begins at a covered place
(`not_covered_of_begins`), and the places that are not covered are those that unescaping comes to
(`uncovered_induction`). So every sequence is decoded, and the other units are kept in their order.
-/

namespace Bytebeat.Packing

/-- The number of places at which a sequence of this form begins. -/
def Form.count (form : Form) (us : List CodeUnit) : Nat :=
  (List.range us.length).countP fun i => form.Begins (us.drop i)

/-- A place belongs to a sequence that begins before it. -/
def Covered (us : List CodeUnit) (i : Nat) : Prop := ∃ k < i, ∃ form : Form, form.Begins (us.drop k) ∧ i < k + form.size

instance (us : List CodeUnit) (i : Nat) : Decidable (Covered us i) := inferInstanceAs (Decidable (∃ k < i, _))

def standsFor? (us : List CodeUnit) : Option CodeUnit :=
  if Form.long.Begins us then some (Form.long.unit us)
  else if Form.short.Begins us then some (Form.short.unit us)
  else us.head?

variable {u : CodeUnit} {us : List CodeUnit} {form : Form} {i : Nat}

theorem standsFor?_of_begins (begins : form.Begins us) : standsFor? us = some (form.unit us) := by
  cases form with
  | long => exact if_pos begins
  | short =>
      have notLong : ¬ Form.long.Begins us := fun long => nomatch begins.unique long
      rw [standsFor?, if_neg notLong, if_pos begins]

theorem standsFor?_of_plain (plain : ∀ form : Form, ¬ form.Begins us) : standsFor? us = us.head? := by
  rw [standsFor?, if_neg (plain .long), if_neg (plain .short)]

theorem Form.Begins.end_le (begins : form.Begins (us.drop i)) : i + form.size ≤ us.length := by
  have fits := begins.size_le
  have pos := form.size_pos
  rw [List.length_drop] at fits
  omega

/-! ## The places that unescaping comes to -/

theorem not_covered_of_begins (begins : form.Begins (us.drop i)) : ¬ Covered us i := by
  rintro ⟨k, before, form', begins', inside⟩
  have distance : us.drop i = (us.drop k).drop (i - k) := by
    rw [List.drop_drop, Nat.add_sub_cancel' (Nat.le_of_lt before)]
  rw [distance] at begins
  exact not_begins_inside begins' (by omega) (by omega) begins

theorem not_covered_zero : ¬ Covered us 0 := by
  rintro ⟨k, before, -⟩
  omega

theorem not_covered_add_size (free : ¬ Covered us i) (begins : form.Begins (us.drop i)) :
    ¬ Covered us (i + form.size) := by
  rintro ⟨k, before, form', begins', inside⟩
  obtain earlier | rfl | later := Nat.lt_trichotomy k i
  · exact free ⟨k, earlier, form', begins', by omega⟩
  · rw [begins.unique begins'] at inside
    omega
  · exact not_covered_of_begins begins' ⟨i, later, form, begins, before⟩

theorem not_covered_succ (free : ¬ Covered us i) (plain : ∀ form : Form, ¬ form.Begins (us.drop i)) :
    ¬ Covered us (i + 1) := by
  rintro ⟨k, before, form, begins, inside⟩
  obtain earlier | rfl : k < i ∨ k = i := by omega
  · exact free ⟨k, earlier, form, begins, by omega⟩
  · exact plain form begins

theorem uncovered_induction (us : List CodeUnit) {motive : Nat → Prop} (done : motive us.length)
    (sequence : ∀ i (form : Form), ¬ Covered us i → form.Begins (us.drop i) → motive (i + form.size) → motive i)
    (plain : ∀ i u, ¬ Covered us i → us.drop i = u :: us.drop (i + 1) →
      (∀ form : Form, ¬ form.Begins (us.drop i)) → motive (i + 1) → motive i) : motive 0 := by
  -- On the number of units left; that a place is not covered is handed on from each to the next.
  have all (i : Nat) (inside : i ≤ us.length) (free : ¬ Covered us i) : motive i := by
    induction left : us.length - i using Nat.strongRecOn generalizing i with
    | ind left ih =>
        obtain rfl | lt : i = us.length ∨ i < us.length := by omega
        · exact done
        by_cases here : ∃ form : Form, form.Begins (us.drop i)
        · obtain ⟨form, begins⟩ := here
          have fits := begins.end_le
          have pos := form.size_pos
          exact sequence i form free begins (ih _ (by omega) _ (by omega) (not_covered_add_size free begins) rfl)
        · rw [not_exists] at here
          exact plain i us[i] free (List.drop_eq_getElem_cons lt) here
            (ih _ (by omega) _ (by omega) (not_covered_succ free here) rfl)
  exact all 0 (Nat.zero_le _) not_covered_zero

/-! ## All places of a text -/

def placesFrom (us : List CodeUnit) (i : Nat) : List Nat := List.range' i (us.length - i)

theorem placesFrom_zero (us : List CodeUnit) : placesFrom us 0 = List.range us.length := List.range_eq_range'.symm

theorem placesFrom_length (us : List CodeUnit) : placesFrom us us.length = [] := by
  rw [placesFrom, Nat.sub_self, List.range'_zero]

theorem placesFrom_of_begins (begins : form.Begins (us.drop i)) :
    placesFrom us i = i :: (List.range' (i + 1) (form.size - 1) ++ placesFrom us (i + form.size)) := by
  have fits := begins.end_le
  have pos := form.size_pos
  have length : us.length - i = form.size - 1 + (us.length - (i + form.size)) + 1 := by omega
  have next : i + form.size = i + 1 + (form.size - 1) := by omega
  rw [placesFrom, placesFrom, length, List.range'_succ, ← List.range'_append_1, ← next]

theorem covered_of_mem {j : Nat} (begins : form.Begins (us.drop i)) (mem : j ∈ List.range' (i + 1) (form.size - 1)) :
    Covered us j := by
  rw [List.mem_range'_1] at mem
  exact ⟨i, by omega, form, begins, by omega⟩

theorem placesFrom_of_drop (cons : us.drop i = u :: us.drop (i + 1)) :
    placesFrom us i = i :: placesFrom us (i + 1) := by
  have length := congrArg List.length cons
  rw [List.length_drop, List.length_cons, List.length_drop] at length
  rw [placesFrom, length, List.range'_succ]
  rfl

theorem map_unescapeUnits (us : List CodeUnit) : (unescapeUnits us).map some =
    ((List.range us.length).filter fun i => ¬ Covered us i).map fun i => standsFor? (us.drop i) := by
  rw [← placesFrom_zero]
  apply uncovered_induction us (motive := fun i => (unescapeUnits (us.drop i)).map some =
    ((placesFrom us i).filter fun i => ¬ Covered us i).map fun i => standsFor? (us.drop i))
  case done => simp [placesFrom_length]
  case sequence =>
    intro i form free begins later
    have inside : (List.range' (i + 1) (form.size - 1)).filter (fun j => ¬ Covered us j) = [] := by
      rw [List.filter_eq_nil_iff]
      intro j mem
      simpa using covered_of_mem begins mem
    rw [placesFrom_of_begins begins, List.filter_cons_of_pos (by simpa using free), List.filter_append, inside,
      List.nil_append, List.map_cons, ← later, standsFor?_of_begins begins, unescapeUnits_of_begins begins,
      List.drop_drop, List.map_cons]
  case plain =>
    intro i u free cons plain later
    rw [placesFrom_of_drop cons, List.filter_cons_of_pos (by simpa using free), List.map_cons, ← later,
      standsFor?_of_plain plain, cons, List.head?_cons, unescapeUnits_of_plain (cons ▸ plain), List.map_cons]

theorem countP_of_begins {form' : Form} (begins : form.Begins (us.drop i)) :
    (placesFrom us i).countP (fun j => form'.Begins (us.drop j)) =
      (if form' = form then 1 else 0) + (placesFrom us (i + form.size)).countP fun j => form'.Begins (us.drop j) := by
  have here : form'.Begins (us.drop i) ↔ form' = form :=
    ⟨fun begins' => begins'.unique begins, fun same => same ▸ begins⟩
  have inside : (List.range' (i + 1) (form.size - 1)).countP (fun j => form'.Begins (us.drop j)) = 0 := by
    rw [List.countP_eq_zero]
    intro j mem begins'
    exact not_covered_of_begins (of_decide_eq_true begins') (covered_of_mem begins mem)
  rw [placesFrom_of_begins begins, List.countP_cons, List.countP_append, inside, Nat.zero_add, Nat.add_comm]
  simp only [decide_eq_true_eq, here]

theorem countP_of_plain (cons : us.drop i = u :: us.drop (i + 1)) (plain : ¬ form.Begins (us.drop i)) :
    (placesFrom us i).countP (fun j => form.Begins (us.drop j)) =
      (placesFrom us (i + 1)).countP fun j => form.Begins (us.drop j) := by
  rw [placesFrom_of_drop cons, List.countP_cons_of_neg (by simpa using plain)]

theorem length_unescapeUnits (us : List CodeUnit) :
    (unescapeUnits us).length + 5 * Form.long.count us + 2 * Form.short.count us = us.length := by
  rw [Form.count, Form.count, ← placesFrom_zero]
  apply uncovered_induction us (motive := fun i => (unescapeUnits (us.drop i)).length +
    5 * (placesFrom us i).countP (fun j => Form.long.Begins (us.drop j)) +
    2 * (placesFrom us i).countP (fun j => Form.short.Begins (us.drop j)) = (us.drop i).length)
  case done => simp [placesFrom_length]
  case sequence =>
    intro i form free begins later
    have fits := begins.end_le
    have sizes : Form.short.size = 3 ∧ Form.long.size = 6 := ⟨rfl, rfl⟩
    rw [List.length_drop] at later ⊢
    rw [unescapeUnits_of_begins begins, List.drop_drop, List.length_cons, countP_of_begins begins,
      countP_of_begins begins]
    cases form with
    | short =>
        rw [if_neg (by decide), if_pos rfl]
        omega
    | long =>
        rw [if_pos rfl, if_neg (by decide)]
        omega
  case plain =>
    intro i u free cons plain later
    rw [countP_of_plain cons (plain _), countP_of_plain cons (plain _), cons, unescapeUnits_of_plain (cons ▸ plain),
      List.length_cons, List.length_cons, ← later]
    omega

theorem count_pos_iff : 0 < form.count us ↔ ∃ i, form.Begins (us.drop i) := by
  rw [Form.count, List.countP_pos_iff]
  constructor
  · rintro ⟨i, -, begins⟩
    exact ⟨i, of_decide_eq_true begins⟩
  · rintro ⟨i, begins⟩
    have fits := begins.end_le
    have pos := form.size_pos
    exact ⟨i, List.mem_range.mpr (by omega), decide_eq_true begins⟩

theorem unescapeUnits_eq_self (absent : ∀ i (form : Form), ¬ form.Begins (us.drop i)) : unescapeUnits us = us := by
  apply uncovered_induction us (motive := fun i => unescapeUnits (us.drop i) = us.drop i)
  case done => simp
  case sequence => exact fun i form _ begins => absurd begins (absent i form)
  case plain =>
    intro i u _ cons plain later
    rw [cons, unescapeUnits_of_plain (cons ▸ plain), later]

/--
Unescaping keeps exactly the texts in which no sequence begins anywhere and makes all others shorter, by five units for
each place where `%uXXXX` begins and by two for each where `%XX` does. None of these places is covered by an earlier
sequence, and what comes out is, in their order, what the places stand for that none covers: the unit that a sequence
names or the unit itself.
-/
theorem unescape_decodes_sequences (t : Text) :
    ((unescape t).units = t.units ↔ ∀ i (form : Form), ¬ form.Begins (t.units.drop i)) ∧
    ((unescape t).units.length < t.units.length ↔ ∃ i, ∃ form : Form, form.Begins (t.units.drop i)) ∧
    (unescape t).units.length + 5 * Form.long.count t.units + 2 * Form.short.count t.units = t.units.length ∧
    (∀ i (form : Form), ¬ (form.Begins (t.units.drop i) ∧ Covered t.units i)) ∧
    (unescape t).units.map some =
      ((List.range t.units.length).filter fun i => ¬ Covered t.units i).map fun i => standsFor? (t.units.drop i) := by
  have length := length_unescapeUnits t.units
  have shorter {i : Nat} {form : Form} (begins : form.Begins (t.units.drop i)) :
      (unescapeUnits t.units).length < t.units.length := by
    have := count_pos_iff.mpr ⟨i, begins⟩
    cases form <;> omega
  rw [unescape, Text.units_ofUnits]
  refine ⟨⟨fun same i form begins => ?_, unescapeUnits_eq_self⟩, ⟨fun lt => ?_, fun ⟨_, _, begins⟩ => shorter begins⟩,
    length, fun i form ⟨begins, covered⟩ => not_covered_of_begins begins covered, map_unescapeUnits t.units⟩
  · have := shorter begins
    rw [same] at this
    omega
  · apply Classical.byContradiction
    intro absent
    have same := unescapeUnits_eq_self fun i form begins => absent ⟨i, form, begins⟩
    rw [same] at lt
    omega

example : unescape "%%4a%u00E9%u12%u0041u%2" = ("%J\u00e9%u12Au%2" : String) := by decide

end Bytebeat.Packing
