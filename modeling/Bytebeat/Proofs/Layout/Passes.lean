import Bytebeat.Proofs.Layout.Balance

namespace Bytebeat.Layout

variable {a b config : Config} {s s' : State} {c : CodePoint} {rest code out : Text}

theorem Config.join_comm (a b : Config) : a.join b = b.join a := by
  simp only [join, Bool.and_comm, Nat.max_comm]

theorem Config.join_self (config : Config) : config.join config = config := by
  simp only [join, Bool.and_self, Nat.max_self]

theorem scan_cons_of_step (moved : s.step c = .ok s') : scan config s [] (c :: rest) =
    (scan config s' [] rest).map fun later =>
      if s.breaks config c rest.head? then c :: '\n' :: later else c :: later := by
  simp only [scan, moved]
  rw [scan_eq_map]
  congr 1
  funext later
  split <;> rfl

theorem breaks_join (s : State) (c : CodePoint) (next : Option CodePoint) :
    s.breaks (a.join b) c next = (s.breaks a c next || s.breaks b c next) := by
  simp only [State.breaks, Config.allows_join]
  cases a.allows s.parens <;> cases b.allows s.parens <;> simp

theorem scan_of_free (free : s.literal = none) (previous : Option CodePoint) :
    scan config { s with previous } [] code = scan config s [] code := by
  cases code with
  | nil => rfl
  | cons c rest =>
      have step : State.step { s with previous } c = s.step c := by
        simp only [State.step, free, State.outside]
      simp only [scan, step]
      rfl

theorem step_of_plain (free : s.literal = none) (plain : c = ',' ∨ c = '\n') :
    s.step c = .ok { s with previous := some c } := by
  simp only [State.step, free, State.outside]
  rcases plain with rfl | rfl <;> simp +decide

theorem comma_of_breaks {next : Option CodePoint} (ends : s.breaks config c next = true) :
    c = ',' ∧ s.literal = none := by
  simp only [State.breaks, Bool.and_eq_true, decide_eq_true_eq, Option.isNone_iff_eq_none] at ends
  exact ⟨ends.1.1.1.2, ends.1.1.1.1⟩

theorem scan_comma_break (free : s.literal = none) (moved : s.step ',' = .ok s') :
    scan config s [] ((',' : CodePoint) :: '\n' :: rest) =
      (scan config s' [] rest).map fun later => (',' : CodePoint) :: '\n' :: later := by
  cases moved.symm.trans (step_of_plain free (.inl rfl))
  have lineBreak : State.step { s with previous := some (',' : CodePoint) } '\n' =
      .ok { s with previous := some ('\n' : CodePoint) } :=
    step_of_plain free (.inr rfl)
  have noComma (next : Option CodePoint) :
      State.breaks config { s with previous := some (',' : CodePoint) } '\n' next = false := by
    simp +decide [State.breaks]
  have broken : s.breaks config ',' (some ('\n' : CodePoint)) = false := by
    simp [State.breaks]
  rw [scan_cons_of_step (step_of_plain free (.inl rfl)), scan_cons_of_step lineBreak, List.head?_cons, broken,
    noComma, scan_of_free free (some ('\n' : CodePoint)), scan_of_free free (some (',' : CodePoint))]
  cases scan config s [] rest <;> rfl

theorem eq_nil_of_scan_nil (succeeds : scan config s [] [] = .ok out) : out = [] := by
  unfold scan at succeeds
  cases ended : s.finish <;> rw [ended] at succeeds <;> cases succeeds
  rfl

theorem head?_of_scan (succeeds : scan config s [] code = .ok out) : out.head? = code.head? := by
  cases code with
  | nil => rw [eq_nil_of_scan_nil succeeds]
  | cons c rest =>
      obtain ⟨s', later, -, -, rfl⟩ := scan_cons_eq_ok succeeds
      split <;> rfl

theorem scan_scan (succeeds : scan a s [] code = .ok out) : scan b s [] out = scan (a.join b) s [] code := by
  induction code generalizing s out with
  | nil =>
      rw [eq_nil_of_scan_nil succeeds]
      rfl
  | cons c rest ih =>
      obtain ⟨s', later, moved, ran, rfl⟩ := scan_cons_eq_ok succeeds
      have again := ih ran
      rw [scan_cons_of_step moved, breaks_join]
      by_cases ends : s.breaks a c rest.head? = true
      · obtain ⟨rfl, free⟩ := comma_of_breaks ends
        rw [if_pos ends, scan_comma_break free moved, again]
        simp [ends]
      · rw [if_neg ends, scan_cons_of_step moved, head?_of_scan ran, again]
        simp [ends]

theorem format_bind_format (a b : Config) (text : Text) :
    (format a text).bind (format b) = format (a.join b) text ∧
    (format a text).verdict = (format b text).verdict ∧
    (format a text).bind (format b) = (format b text).bind (format a) ∧
    (format a text).bind (format a) = format a text := by
  have twice (a b : Config) : (format a text).bind (format b) = format (a.join b) text := by
    cases ran : format a text with
    | ok out => exact scan_scan ran
    | error i =>
        have joint : (format (a.join b) text).verdict = .error i := by
          rw [verdict_format, ← verdict_format a, ran]
          rfl
        exact (Outcome.verdict_eq_error_iff.mp joint).symm
  refine ⟨twice a b, by rw [verdict_format, verdict_format], ?_, ?_⟩
  · rw [twice, twice, Config.join_comm]
  · rw [twice, Config.join_self]

end Bytebeat.Layout
