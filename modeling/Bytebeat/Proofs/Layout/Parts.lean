import Bytebeat.Proofs.Layout.Passes

namespace Bytebeat.Layout

variable {config : Config} {before front out : Text} {c : CodePoint} {s s' : State}

theorem finish_eq_ok_iff : s.finish = .ok () ↔ s.arrays = 0 ∧ s.parens = 0 := by
  unfold State.finish
  split
  · simp_all
  · split <;> simp_all

theorem scan_nil_eq_ok_iff : scan config s [] [] = .ok out ↔ s.finish = .ok () ∧ out = [] := by
  unfold scan
  cases s.finish with
  | error i => simp [Except.map]
  | ok u => simp [Except.map, eq_comm]

theorem scan_of_finished (free : s.literal = none) (ended : s.finish = .ok ()) (rest : Text) :
    scan config s [] rest = scan config {} [] rest := by
  obtain ⟨arrays, parens⟩ := finish_eq_ok_iff.mp ended
  have start : s = { ({} : State) with previous := s.previous } := by
    cases s
    simp_all
  rw [start]
  exact scan_of_free rfl s.previous

theorem exists_of_scan (reached : Reached before s) (ran : scan config s [] (front ++ [c]) = .ok out) :
    ∃ m done, Reached (before ++ front) m ∧
      ∀ rest, scan config s [] (front ++ c :: rest) = (scan config m [] (c :: rest)).map (done ++ ·) := by
  induction front generalizing before s out with
  | nil =>
      refine ⟨s, [], by rwa [List.append_nil], fun rest => ?_⟩
      rw [List.nil_append]
      cases scan config s [] (c :: rest) <;> rfl
  | cons d front ih =>
      obtain ⟨s', later, moved, ranLater, -⟩ := scan_cons_eq_ok ran
      obtain ⟨m, done, reachedNext, goesOn⟩ := ih (reached.step moved) ranLater
      have next (rest : Text) : (front ++ c :: rest).head? = (front ++ [c]).head? := by
        cases front <;> rfl
      refine ⟨m, if s.breaks config d (front ++ [c]).head? then d :: '\n' :: done else d :: done, ?_, fun rest => ?_⟩
      · rwa [List.append_assoc, List.singleton_append] at reachedNext
      · rw [List.cons_append, scan_cons_of_step moved, goesOn, next]
        cases scan config m [] (c :: rest) with
        | error i => rfl
        | ok later =>
            simp only [Except.map, Except.ok.injEq]
            split <;> rfl

/-! ## The last sign of the first part -/

theorem Reached.literal_of_step_comma (reached : Reached before s) (moved : s.step ',' = .ok s')
    (free : s'.literal = none) : s.literal = none := by
  cases inside : unfinished? afterBackslash before with
  | none => exact reached.literal_eq_none_iff.mpr inside
  | some literal =>
      obtain ⟨_, quote, body, _, rfl, _, isQuote, _⟩ := exists_of_unfinished inside
      have isOpen : s.literal = some quote := by
        rw [reached.literal, inside]
        rfl
      -- A comma is no quote, so the literal would still be open.
      have other : (',' : CodePoint) ≠ quote := by
        rintro rfl
        exact absurd isQuote (by decide)
      rw [State.step, isOpen] at moved
      cases moved
      simp [inLiteral_eq, other, isOpen] at free

theorem Reached.breaks_last_iff (reached : Reached before s) (moved : s.step c = .ok s') (free : s'.literal = none)
    (ended : s'.finish = .ok ()) (next : Option CodePoint) :
    s.breaks config c next = true ↔ c = ',' ∧ next ≠ some ('\n' : CodePoint) := by
  constructor
  · intro ends
    refine ⟨(comma_of_breaks ends).1, ?_⟩
    simp only [State.breaks, Bool.and_eq_true, decide_eq_true_eq] at ends
    exact ends.2
  · rintro ⟨rfl, unbroken⟩
    have outside := reached.literal_of_step_comma moved free
    cases moved.symm.trans (step_of_plain outside (.inl rfl))
    obtain ⟨arrays, parens⟩ := finish_eq_ok_iff.mp ended
    simp_all [State.breaks, Config.allows]

theorem exists_of_format_concat (ran : format config (front ++ [c]) = .ok out)
    (free : unfinished? afterBackslash (front ++ [c]) = none) :
    ∃ done, out = done ++ (if c = ',' then [c, '\n'] else [c]) ∧ ∀ rest,
      format config (front ++ c :: rest) = (format config rest).map fun later =>
        done ++ (if c = ',' ∧ rest.head? ≠ some ('\n' : CodePoint) then [c, '\n'] else [c]) ++ later := by
  obtain ⟨m, done, reached, goesOn⟩ := exists_of_scan reached_start ran
  rw [List.nil_append] at reached
  rw [format, goesOn []] at ran
  cases ranLast : scan config m [] [c] with
  | error i => simp [ranLast, Except.map] at ran
  | ok last =>
      obtain ⟨s', later, moved, ranNil, rfl⟩ := scan_cons_eq_ok ranLast
      obtain ⟨ended, rfl⟩ := scan_nil_eq_ok_iff.mp ranNil
      have freeNext := (reached.step moved).literal_eq_none_iff.mpr free
      have breaks (next : Option CodePoint) :
          m.breaks config c next = true ↔ c = ',' ∧ next ≠ some ('\n' : CodePoint) :=
        reached.breaks_last_iff moved freeNext ended next
      refine ⟨done, ?_, fun rest => ?_⟩
      · rw [ranLast] at ran
        simp only [breaks, List.head?_nil, ne_eq, reduceCtorEq, not_false_eq_true, and_true] at ran
        cases ran
        rfl
      · rw [format, goesOn, scan_cons_of_step moved, scan_of_finished freeNext ended, ← format]
        simp only [breaks]
        cases format config rest with
        | error i => rfl
        | ok later =>
            simp only [Except.map, List.append_assoc]
            split <;> rfl

theorem verdict_map (o : Outcome) (f : Text → Text) : Outcome.verdict (o.map f) = o.verdict := by
  cases o <;> rfl

/-- Two parts are laid out one after the other, and a comma between them gets a break if it has none. -/
theorem format_append {x y : Text} (ran : format config x = .ok out) (free : unfinished? afterBackslash x = none) :
    (format config (x ++ y)).verdict = (format config y).verdict ∧
    ∀ later, format config y = .ok later →
      (¬ (x.getLast? = some (',' : CodePoint) ∧ y.head? = some ('\n' : CodePoint)) →
        format config (x ++ y) = .ok (out ++ later)) ∧
      (x.getLast? = some (',' : CodePoint) → y.head? = some ('\n' : CodePoint) →
        ∃ front, out = front ++ ",\n" ∧ format config (x ++ y) = .ok (front ++ "," ++ later)) := by
  rcases List.eq_nil_or_concat x with rfl | ⟨front, c, rfl⟩
  · rw [format, scan_nil_eq_ok_iff] at ran
    rw [ran.2]
    exact ⟨rfl, fun later ranLater => ⟨fun _ => ranLater, nofun⟩⟩
  · rw [List.concat_eq_append] at ran free ⊢
    obtain ⟨done, rfl, goesOn⟩ := exists_of_format_concat ran free
    rw [List.append_assoc, List.singleton_append, goesOn, verdict_map, List.getLast?_concat, Option.some.injEq]
    refine ⟨rfl, fun later ranLater => ?_⟩
    rw [ranLater]
    constructor
    · intro apart
      have whole : (c = ',' ∧ y.head? ≠ some ('\n' : CodePoint)) ↔ c = ',' :=
        and_iff_left_of_imp fun comma next => apart ⟨comma, next⟩
      simp only [whole]
      rfl
    · rintro rfl next
      refine ⟨done, rfl, ?_⟩
      rw [if_neg fun broken => broken.2 next]
      rfl

theorem format_append_lineBreak :
    format .topLevel "'[',t," = .ok "'[',\nt,\n" ∧ unfinished? afterBackslash "'[',t," = none ∧
    format .topLevel ("'[',t," ++ "\n(a,b),c" : Text) = .ok "'[',\nt,\n(a,b),\nc" := by
  have ran : format .topLevel "'[',t," = .ok "'[',\nt,\n" := rfl
  have free : unfinished? afterBackslash "'[',t," = none := by decide +kernel
  have later : format .topLevel "\n(a,b),c" = .ok "\n(a,b),\nc" := rfl
  obtain ⟨front, same, joined⟩ := ((format_append ran free).2 _ later).2 rfl rfl
  refine ⟨ran, free, ?_⟩
  obtain rfl : front = "'[',\nt" := (List.append_cancel_right same).symm
  exact joined

end Bytebeat.Layout
