import Bytebeat.Proofs.Layout.Passes
import Bytebeat.Proofs.Packing.Spaced

namespace Bytebeat.Layout
open Packing

def State.quiet? (s : State) : Text → Option State
  | [] => some s
  | c :: t =>
    match s.step c with
    | .ok s' => if s.literal = none ∧ c = ',' then none else s'.quiet? t
    | .error _ => none

variable {config : Config} {s s' : State} {c quote : CodePoint} {t payload : Text}

theorem quiet?_cons_eq_some_iff : s.quiet? (c :: t) = some s' ↔
    ∃ m, s.step c = .ok m ∧ ¬ (s.literal = none ∧ c = ',') ∧ m.quiet? t = some s' := by
  rw [State.quiet?]
  cases moved : s.step c with
  | error i => simp
  | ok m => simp

theorem scan_append_of_quiet (quiet : s.quiet? t = some s') (rest : Text) :
    scan config s [] (t ++ rest) = (scan config s' [] rest).map (t ++ ·) := by
  induction t generalizing s with
  | nil =>
      cases quiet
      rw [List.nil_append]
      cases scan config s' [] rest <;> rfl
  | cons c t ih =>
      obtain ⟨m, moved, notComma, later⟩ := quiet?_cons_eq_some_iff.mp quiet
      have unbroken : ¬ s.breaks config c (t ++ rest).head? = true :=
        fun ends => notComma (comma_of_breaks ends).symm
      rw [List.cons_append, scan_cons_of_step moved, ih later]
      simp only [unbroken]
      cases scan config s' [] rest <;> rfl

theorem step_of_literal (inside : s.literal = some quote) (c : CodePoint) : s.step c = .ok (s.inLiteral quote c) := by
  rw [State.step, inside]

theorem quiet?_of_literal (inside : s.literal = some quote) (noQuote : quote ∉ t) :
    s.quiet? t = some { s with previous := t.getLast?.or s.previous } := by
  induction t generalizing s with
  | nil => rfl
  | cons c t ih =>
      rw [List.mem_cons, not_or] at noQuote
      have moved : s.step c = .ok { s with previous := some c } := by
        have goesOn : ¬ (c = quote ∧ s.previous ≠ some ('\\' : CodePoint)) := fun ends => noQuote.1 ends.1.symm
        rw [step_of_literal inside, inLiteral_eq, if_neg goesOn]
      have later := ih (s := { s with previous := some c }) inside noQuote.2
      rw [quiet?_cons_eq_some_iff]
      refine ⟨_, moved, by simp [inside], ?_⟩
      rw [later, List.getLast?_cons]
      cases t.getLast? <;> rfl

theorem quiet?_append {m : State} {rest : Text} (quiet : s.quiet? t = some m) (later : m.quiet? rest = some s') :
    s.quiet? (t ++ rest) = some s' := by
  induction t generalizing s with
  | nil =>
      cases quiet
      exact later
  | cons c t ih =>
      obtain ⟨next, moved, notComma, quiet⟩ := quiet?_cons_eq_some_iff.mp quiet
      exact quiet?_cons_eq_some_iff.mpr ⟨next, moved, notComma, ih quiet⟩

/-! ## Wrappers -/

def State.atPayload : State := { literal := some '\x60', previous := some '\x60', parens := 2 }

def State.atComma : State := { previous := some 'g', parens := 3 }

theorem quiet?_front : State.quiet? {} (Wrapper.front { payload }) = some .atPayload := rfl

theorem quiet?_payload (noQuote : ('\x60' : CodePoint) ∉ payload) (last : payload.getLast? ≠ some ('\\' : CodePoint)) :
    State.atPayload.quiet? (payload ++ Wrapper.call { payload }) = some .atComma := by
  refine quiet?_append (quiet?_of_literal rfl noQuote) ?_
  have unescaped : payload.getLast?.or (some ('\x60' : CodePoint)) ≠ some ('\\' : CodePoint) := by
    cases ends : payload.getLast? with
    | none => decide
    | some c => exact fun same => last (ends.trans same)
  have closed : { State.atPayload with previous := payload.getLast?.or (some '\x60') }.step '\x60' =
      .ok { previous := some '\x60', parens := 2 } := by
    rw [step_of_literal rfl, inLiteral_eq, if_pos ⟨rfl, unescaped⟩]
    rfl
  exact quiet?_cons_eq_some_iff.mpr ⟨_, closed, by simp +decide [State.atPayload], rfl⟩

theorem scan_comma (config : Config) : scan config .atComma [] (',' :: Wrapper.marks { payload }) =
    .ok ((if config.allows 3 then ",\n" else "," : Text) ++ Wrapper.marks { payload }) := by
  have moved : State.atComma.step ',' = .ok { previous := some ',', parens := 3 } := rfl
  have quiet : State.quiet? { previous := some ',', parens := 3 } (Wrapper.marks { payload }) =
      some { previous := some ')' } := rfl
  have marks : scan config _ [] (Wrapper.marks { payload } ++ []) = _ := scan_append_of_quiet quiet []
  rw [List.append_nil] at marks
  have breaks : State.atComma.breaks config ',' (Wrapper.marks { payload }).head? = config.allows 3 := by
    have next : (Wrapper.marks { payload }).head? = some ('"' : CodePoint) := rfl
    rw [next]
    simp +decide [State.breaks, State.atComma]
  rw [scan_cons_of_step moved, marks, breaks]
  cases config.allows 3 <;> rfl

/-- A wrapper gets no line break but the one after the comma of its replace call, inside three parentheses. -/
theorem format_render (config : Config) (noQuote : ('\x60' : CodePoint) ∉ payload)
    (last : payload.getLast? ≠ some ('\\' : CodePoint)) :
    format config (Wrapper.render { payload }) =
      .ok (Wrapper.spell { payload } (if config.allows 3 then ",\n" else ",")) := by
  have spelled (comma : Text) : Wrapper.spell { payload } comma = Wrapper.front { payload } ++
      (payload ++ Wrapper.call { payload }) ++ (comma ++ Wrapper.marks { payload }) := by
    simp only [Wrapper.spell, List.append_assoc]
  rw [Wrapper.render_eq_spell, format, spelled, spelled,
    scan_append_of_quiet (quiet?_append quiet?_front (quiet?_payload noQuote last))]
  exact congrArg (Except.map _) (scan_comma config)

end Bytebeat.Layout
