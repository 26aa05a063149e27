import Bytebeat.Packing.Codec

/-!
The grammar of wrappers, and that a text has at most one reading in it.

`Spells` says of what parts a wrapper is made. Reading takes the parts off from both ends of the trimmed code. The
same payload is found from the left, when its signs are taken in one by one until an ending is left, or an ending
with a line break after it (`searchPayload?`): no ending of a wrapper ends with another one, whatever the payload
holds, and trimmed code does not end with a line break.
-/

namespace Bytebeat

theorem Text.getLast?_trimWhere {p : CodePoint → Bool} {t : Text} {c : CodePoint}
    (last : (t.trimWhere p).getLast? = some c) : p c = false := by
  rw [trimWhere, List.getLast?_reverse] at last
  have kept := List.head?_dropWhile_not p (t.dropWhile p).reverse
  rwa [last] at kept

namespace Packing

def openings : List Text := ["\x60", "('", "(\"", "(\x60"]

def closings : List Text := ["\x60", "')", "\")", "\x60)"]

def quotes : List CodePoint := ['"', '\'', '\x60']

def ending (closing : Text) (first second : CodePoint) : Text :=
  closing ++ ".replace(/u(..)/g," ++ [first] ++ "$1%" ++ [second] ++ ")))"

/-- A text is a wrapper around a payload. -/
def Spells (t payload : Text) : Prop :=
  ∃ opening ∈ openings, ∃ closing ∈ closings, ∃ first ∈ quotes, ∃ second ∈ quotes,
    t = "eval(unescape(escape" ++ opening ++ payload ++ ending closing first second

def endings : List Text :=
  closings.flatMap fun closing => quotes.flatMap fun first => quotes.map fun second => ending closing first second

def AtEnd (t : Text) : Prop := t ∈ endings ∨ ∃ e ∈ endings, t = e ++ "\n"

instance (t : Text) : Decidable (AtEnd t) := inferInstanceAs (Decidable (_ ∨ _))

/-- The shortest beginning of a text after which an ending is left. -/
def shortest? : Text → Option Text
  | [] => none
  | c :: t => if AtEnd (c :: t) then some [] else (shortest? t).map (c :: ·)

def searchPayload? (t : Text) : Option Text :=
  (Text.dropStart? "eval(unescape(escape" t).bind fun t =>
    openings.findSome? fun opening => (Text.dropStart? opening t).bind shortest?

/-! ## Spelling and writing -/

def Delimiter.all : List Delimiter := [bare, call .single, call .double, call .backtick]

theorem Delimiter.mem_map_all_iff {f : Delimiter → Text} {t : Text} : t ∈ all.map f ↔ ∃ d, t = f d := by
  have complete (d : Delimiter) : d ∈ all := by
    cases d with
    | bare => decide
    | call q => cases q <;> decide
  simp only [List.mem_map, complete, true_and, eq_comm]

theorem mem_openings_iff {t : Text} : t ∈ openings ↔ ∃ d : Delimiter, t = d.opening :=
  Delimiter.mem_map_all_iff (f := Delimiter.opening)

theorem mem_closings_iff {t : Text} : t ∈ closings ↔ ∃ d : Delimiter, t = d.closing :=
  Delimiter.mem_map_all_iff (f := Delimiter.closing)

theorem mem_quotes_iff {c : CodePoint} : c ∈ quotes ↔ ∃ q : Quote, c = q.sign := by
  constructor
  · intro mem
    simp only [quotes, List.mem_cons, List.not_mem_nil, or_false] at mem
    rcases mem with rfl | rfl | rfl
    · exact ⟨.double, rfl⟩
    · exact ⟨.single, rfl⟩
    · exact ⟨.backtick, rfl⟩
  · rintro ⟨q, rfl⟩
    cases q <;> decide

theorem mem_endings_iff {t : Text} : t ∈ endings ↔ ∃ w : Wrapper, t = w.ending := by
  simp only [endings, List.mem_flatMap, List.mem_map, mem_closings_iff, mem_quotes_iff]
  constructor
  · rintro ⟨_, ⟨closer, rfl⟩, _, ⟨first, rfl⟩, _, ⟨second, rfl⟩, rfl⟩
    exact ⟨{ payload := [], closer, first, second }, rfl⟩
  · rintro ⟨w, rfl⟩
    exact ⟨_, ⟨w.closer, rfl⟩, _, ⟨w.first, rfl⟩, _, ⟨w.second, rfl⟩, rfl⟩

theorem spells_iff {t payload : Text} : Spells t payload ↔ ∃ w : Wrapper, w.payload = payload ∧ t = w.render := by
  simp only [Spells, mem_openings_iff, mem_closings_iff, mem_quotes_iff]
  constructor
  · rintro ⟨_, ⟨opener, rfl⟩, _, ⟨closer, rfl⟩, _, ⟨first, rfl⟩, _, ⟨second, rfl⟩, rfl⟩
    exact ⟨{ payload, opener, closer, first, second }, rfl, rfl⟩
  · rintro ⟨w, rfl, rfl⟩
    exact ⟨_, ⟨w.opener, rfl⟩, _, ⟨w.closer, rfl⟩, _, ⟨w.first, rfl⟩, _, ⟨w.second, rfl⟩, rfl⟩

theorem Wrapper.render_injective {w v : Wrapper} (same : w.render = v.render) : w = v := by
  have read := read?_render w
  rw [same, read?_render] at read
  exact (Option.some.inj read).symm

theorem Spells.unique {t p q : Text} (spells : Spells t p) (again : Spells t q) : p = q := by
  obtain ⟨w, rfl, rfl⟩ := spells_iff.mp spells
  obtain ⟨v, rfl, same⟩ := spells_iff.mp again
  rw [Wrapper.render_injective same]

theorem Spells.trim {t p : Text} (spells : Spells t p) : t.trim = t := by
  obtain ⟨w, -, rfl⟩ := spells_iff.mp spells
  exact w.trim_render

theorem payload?_eq_some_iff {code p : Text} : payload? code = some p ↔ Spells code.trim p := by
  rw [payload?, Option.map_eq_some_iff, spells_iff]
  constructor
  · rintro ⟨w, read, payload⟩
    exact ⟨w, payload, Wrapper.read?_eq_some_iff.mp read⟩
  · rintro ⟨w, payload, written⟩
    exact ⟨w, Wrapper.read?_eq_some_iff.mpr written, payload⟩

theorem isPacked_iff {code : Text} : isPacked code = true ↔ ∃ w : Wrapper, code.trim = w.render := by
  simp only [isPacked, Option.isSome_iff_exists, payload?_eq_some_iff, spells_iff]
  constructor
  · rintro ⟨_, w, -, written⟩
    exact ⟨w, written⟩
  · rintro ⟨w, written⟩
    exact ⟨_, w, rfl, written⟩

/-! ## The search from the left -/

theorem eq_nil_of_endings {p e e' : Text} (ends : e ∈ endings) (ends' : e' ∈ endings) (same : p ++ e = e') : p = [] := by
  obtain ⟨w, rfl⟩ := mem_endings_iff.mp ends
  obtain ⟨v, rfl⟩ := mem_endings_iff.mp ends'
  have written : Wrapper.render { w with payload := p } =
      Wrapper.render { v with payload := [], opener := w.opener } := by
    show Wrapper.head ++ w.opener.opening ++ p ++ w.ending = Wrapper.head ++ w.opener.opening ++ [] ++ v.ending
    rw [List.append_assoc, same, List.append_nil]
  exact congrArg Wrapper.payload (Wrapper.render_injective written)

theorem getLast?_lineBreak (t : Text) : (t ++ ("\n" : Text)).getLast? = some ('\n' : CodePoint) :=
  List.getLast?_concat

theorem getLast?_ending {p e : Text} (ends : e ∈ endings) : (p ++ e).getLast? = some (')' : CodePoint) := by
  obtain ⟨w, rfl⟩ := mem_endings_iff.mp ends
  rw [Wrapper.ending, List.getLast?_append, List.getLast?_append]
  rfl

theorem shortest?_append {p e : Text} (ends : e ∈ endings) : shortest? (p ++ e) = some p := by
  induction p with
  | nil =>
      match e with
      | [] => exact absurd ends (by decide)
      | c :: t => exact if_pos (.inl ends)
  | cons c p ih =>
      have notYet : ¬ AtEnd (c :: (p ++ e)) := by
        rintro (ended | ended)
        · exact absurd (eq_nil_of_endings (p := c :: p) ends ended rfl) (by simp)
        · obtain ⟨e', -, same⟩ := ended
          have last := getLast?_ending (p := c :: p) ends
          rw [List.cons_append, same, getLast?_lineBreak] at last
          exact absurd last (by decide)
      rw [List.cons_append, shortest?, if_neg notYet, ih]
      rfl

theorem exists_of_shortest? {t p : Text} (found : shortest? t = some p) : ∃ e, AtEnd e ∧ t = p ++ e := by
  induction t generalizing p with
  | nil => cases found
  | cons c t ih =>
      unfold shortest? at found
      split at found
      · rename_i ended
        cases found
        exact ⟨c :: t, ended, rfl⟩
      · obtain ⟨q, later, rfl⟩ := Option.map_eq_some_iff.mp found
        obtain ⟨e, ended, rfl⟩ := ih later
        exact ⟨e, ended, rfl⟩

theorem findSome?_openings {opening r p : Text} (isOpening : opening ∈ openings) (found : shortest? r = some p) :
    openings.findSome? (fun o => (Text.dropStart? o (opening ++ r)).bind shortest?) = some p := by
  simp only [openings, List.mem_cons, List.not_mem_nil, or_false] at isOpening
  rcases isOpening with rfl | rfl | rfl | rfl
  all_goals
    simp +decide [openings, Text.dropStart?, Text.ofString, found]

theorem searchPayload?_of_spells {t p : Text} (spells : Spells t p) : searchPayload? t = some p := by
  obtain ⟨opening, isOpening, closing, isClosing, first, isFirst, second, isSecond, rfl⟩ := spells
  have ends : ending closing first second ∈ endings := by
    simp only [endings, List.mem_flatMap, List.mem_map]
    exact ⟨closing, isClosing, first, isFirst, second, isSecond, rfl⟩
  rw [searchPayload?, List.append_assoc, List.append_assoc, Text.dropStart?_eq_some_iff.mpr rfl, Option.bind_some]
  exact findSome?_openings isOpening (shortest?_append ends)

theorem spells_of_searchPayload? {t p : Text} (found : searchPayload? t = some p)
    (last : t.getLast? ≠ some ('\n' : CodePoint)) : Spells t p := by
  obtain ⟨t, start, found⟩ := Option.bind_eq_some_iff.mp found
  obtain ⟨opening, isOpening, found⟩ := List.exists_of_findSome?_eq_some found
  obtain ⟨t, opened, found⟩ := Option.bind_eq_some_iff.mp found
  obtain ⟨e, ended, rfl⟩ := exists_of_shortest? found
  rw [Text.dropStart?_eq_some_iff] at start opened
  subst opened start
  rcases ended with ends | ⟨e, -, rfl⟩
  · simp only [endings, List.mem_flatMap, List.mem_map] at ends
    obtain ⟨closing, isClosing, first, isFirst, second, isSecond, rfl⟩ := ends
    exact ⟨opening, isOpening, closing, isClosing, first, isFirst, second, isSecond, by simp only [List.append_assoc]⟩
  · rw [← List.append_assoc, ← List.append_assoc, ← List.append_assoc, getLast?_lineBreak] at last
    exact absurd rfl last

theorem payload?_eq_searchPayload? (code : Text) : payload? code = searchPayload? code.trim := by
  apply Option.ext
  intro p
  rw [payload?_eq_some_iff]
  constructor
  · exact searchPayload?_of_spells
  · intro found
    refine spells_of_searchPayload? found fun last => ?_
    exact absurd (Text.getLast?_trimWhere last) (by decide)

/-- Reading finds exactly what a wrapper is spelled around, and there is no second way to spell it. -/
theorem payload?_iff_spells (code : Text) :
    (∀ p, payload? code = some p ↔ Spells code.trim p) ∧
    (∀ p q, Spells code.trim p → Spells code.trim q → p = q) ∧
    (payload? code = none ↔ ∀ p, ¬ Spells code.trim p) ∧
    (∀ p, Spells code p → payload? code = some p) ∧
    payload? code = searchPayload? code.trim := by
  refine ⟨fun p => payload?_eq_some_iff, fun p q => Spells.unique, ?_, ?_, payload?_eq_searchPayload? code⟩
  · simp only [Option.eq_none_iff_forall_ne_some, ne_eq, payload?_eq_some_iff]
  · intro p spells
    rw [payload?_eq_some_iff, spells.trim]
    exact spells

theorem payload?_iff_spells_nested :
    let payload : Text := "eval(unescape(escape\x60a\x60.replace(/u(..)/g,'$1%')))\n\").replace(/u(..)/g,'$1%\")))"
    let code : Text := " eval(unescape(escape(\"" ++ payload ++ "').replace(/u(..)/g,\x60$1%')))\n"
    Spells code.trim payload ∧ payload? code = some payload ∧ ∀ other, Spells code.trim other → other = payload := by
  intro payload code
  have spells : Spells code.trim payload :=
    ⟨"(\"", by decide, "')", by decide, '\x60', by decide, '\'', by decide, by decide +kernel⟩
  obtain ⟨reads, unique, -⟩ := payload?_iff_spells code
  exact ⟨spells, (reads payload).mpr spells, fun other again => unique other payload again spells⟩

end Packing
end Bytebeat
