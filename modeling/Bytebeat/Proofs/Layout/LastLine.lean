import Bytebeat.Proofs.Layout.Parts

namespace Bytebeat.Layout

variable {config : Config} {s : State} {code out : Text}

theorem exists_step_lineFeed (s : State) : ∃ s', s.step '\n' = .ok s' ∧ s'.finish = s.finish := by
  cases inside : s.literal with
  | none => exact ⟨_, step_of_plain inside (.inr rfl), rfl⟩
  | some quote =>
      refine ⟨s.inLiteral quote '\n', ?_, ?_⟩
      · rw [State.step, inside]
      · rw [inLiteral_eq]
        rfl

theorem scan_lineFeed (ended : s.finish = .ok ()) : scan config s [] ['\n'] = .ok ['\n'] := by
  obtain ⟨s', moved, same⟩ := exists_step_lineFeed s
  have noBreak : s.breaks config '\n' none = false := by
    simp +decide [State.breaks]
  have ran : scan config s' [] [] = .ok [] := scan_nil_eq_ok_iff.mpr ⟨same.trans ended, rfl⟩
  rw [scan_cons_of_step moved, ran, List.head?_nil, noBreak]
  rfl

theorem scan_append_lineFeed (ran : scan config s [] code = .ok out)
    (unended : out.getLast? ≠ some ('\n' : CodePoint)) :
    scan config s [] (code ++ [('\n' : CodePoint)]) = .ok (out ++ [('\n' : CodePoint)]) := by
  induction code generalizing s out with
  | nil =>
      obtain ⟨ended, rfl⟩ := scan_nil_eq_ok_iff.mp ran
      exact scan_lineFeed ended
  | cons c rest ih =>
      obtain ⟨s', later, moved, ranRest, rfl⟩ := scan_cons_eq_ok ran
      rw [List.cons_append, scan_cons_of_step moved]
      cases rest with
      | nil =>
          -- The last sign has no break, with nothing behind it or with the line feed.
          obtain ⟨ended, rfl⟩ := scan_nil_eq_ok_iff.mp ranRest
          have broken : s.breaks config c (some ('\n' : CodePoint)) = false := by
            simp [State.breaks]
          have noBreak : s.breaks config c none = false := by
            refine Bool.eq_false_iff.mpr fun ends => unended ?_
            rw [List.head?_nil, if_pos ends]
            rfl
          rw [List.nil_append, scan_lineFeed ended, List.head?_cons, List.head?_nil, broken, noBreak]
          rfl
      | cons d rest =>
          have nonempty : later ≠ [] := by
            rintro rfl
            cases head?_of_scan ranRest
          have unendedLater : later.getLast? ≠ some ('\n' : CodePoint) := by
            obtain ⟨e, later, rfl⟩ := List.exists_cons_of_ne_nil nonempty
            split at unended <;> simpa using unended
          rw [ih ranRest unendedLater, List.cons_append, List.head?_cons, List.head?_cons]
          simp only [Except.map, Except.ok.injEq]
          split <;> rfl

theorem format_of_format (ran : format config code = .ok out) : format config out = .ok out := by
  have again : format config out = format (config.join config) code := scan_scan ran
  rw [again, Config.join_self, ran]

end Bytebeat.Layout
