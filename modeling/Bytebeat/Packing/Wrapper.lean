import Bytebeat.Text.Basic

/-!
The wrapper: a self-decoding expression around packed code.

A wrapper is a fixed head, an opening delimiter, the payload, a closing delimiter and a fixed replace call with two
quoted marks. `Wrapper.render` writes it and `Wrapper.read?` reads it, from both ends towards the payload, so the
payload may hold anything, copies of the wrapper's own parts included. The delimiters need not match.
-/

namespace Bytebeat.Packing

inductive Quote where
  | double
  | single
  | backtick
  deriving DecidableEq

namespace Quote

def sign : Quote → CodePoint
  | double => '"'
  | single => '\''
  | backtick => '\x60'

def ofSign? (c : CodePoint) : Option Quote :=
  if c = '"' then some double else if c = '\'' then some single else if c = '\x60' then some backtick else none

theorem ofSign?_eq_some_iff {c : CodePoint} {q : Quote} : ofSign? c = some q ↔ c = q.sign := by
  cases q <;> simp only [ofSign?, sign] <;> repeat' split
  all_goals first | (simp_all; done) | (subst_vars; decide)

end Quote

inductive Delimiter where
  | bare
  | call (q : Quote)
  deriving DecidableEq

namespace Delimiter

def opening : Delimiter → Text
  | bare => ['\x60']
  | call q => ['(', q.sign]

def closing : Delimiter → Text
  | bare => ['\x60']
  | call q => [q.sign, ')']

def readOpening? : Text → Option (Delimiter × Text)
  | [] => none
  | c :: t =>
    if c = '\x60' then some (bare, t)
    else if c = '(' then
      match t with
      | [] => none
      | d :: t => (Quote.ofSign? d).map fun q => (call q, t)
    else none

def readClosing? : Text → Option (Delimiter × Text)
  | [] => none
  | c :: t =>
    if c = '\x60' then some (bare, t)
    else if c = ')' then
      match t with
      | [] => none
      | d :: t => (Quote.ofSign? d).map fun q => (call q, t)
    else none

theorem readOpening?_eq_some_iff {t r : Text} {d : Delimiter} :
    readOpening? t = some (d, r) ↔ t = d.opening ++ r := by
  cases d with
  | bare =>
    match t with
    | [] => simp [readOpening?, opening]
    | c :: t =>
      simp only [readOpening?, opening]
      split
      · simp_all
      · split
        · split <;> simp_all
        · simp_all
  | call q =>
    match t with
    | [] => simp [readOpening?, opening]
    | c :: t =>
      simp only [readOpening?, opening]
      split
      · subst_vars; simp; intro h; exact absurd h (by decide)
      · split
        · split
          · simp
          · rename_i paren _ _ _
            subst paren
            simp only [Option.map_eq_some_iff, Quote.ofSign?_eq_some_iff]
            constructor
            · rintro ⟨a, rfl, same⟩
              cases same
              rfl
            · intro same
              cases same
              exact ⟨q, rfl, rfl⟩
        · simp_all

theorem readClosing?_eq_some_iff {t r : Text} {d : Delimiter} :
    readClosing? t = some (d, r) ↔ t = d.closing.reverse ++ r := by
  cases d with
  | bare =>
    match t with
    | [] => simp [readClosing?, closing]
    | c :: t =>
      simp only [readClosing?, closing]
      split
      · simp_all
      · split
        · split <;> simp_all
        · simp_all
  | call q =>
    match t with
    | [] => simp [readClosing?, closing]
    | c :: t =>
      simp only [readClosing?, closing]
      split
      · subst_vars; simp; intro h; exact absurd h (by decide)
      · split
        · split
          · simp
          · rename_i paren _ _ _
            subst paren
            simp only [Option.map_eq_some_iff, Quote.ofSign?_eq_some_iff]
            constructor
            · rintro ⟨a, rfl, same⟩
              cases same
              rfl
            · intro same
              cases same
              exact ⟨q, rfl, rfl⟩
        · simp_all

end Delimiter

structure Wrapper where
  payload : Text
  opener : Delimiter := .bare
  closer : Delimiter := .bare
  first : Quote := .double
  second : Quote := .double
  deriving DecidableEq

namespace Wrapper

def head : Text := "eval(unescape(escape"

def replaceCall : Text := ".replace(/u(..)/g,"

def replacement : Text := "$1%"

def tail : Text := ")))"

def ending (w : Wrapper) : Text :=
  w.closer.closing ++ replaceCall ++ [w.first.sign] ++ replacement ++ [w.second.sign] ++ tail

def render (w : Wrapper) : Text := head ++ w.opener.opening ++ w.payload ++ w.ending

def readQuote? : Text → Option (Quote × Text)
  | [] => none
  | c :: t => (Quote.ofSign? c).map (·, t)

theorem readQuote?_eq_some_iff {t r : Text} {q : Quote} : readQuote? t = some (q, r) ↔ t = q.sign :: r := by
  cases t with
  | nil => simp [readQuote?]
  | cons c t =>
    simp only [readQuote?, Option.map_eq_some_iff, Quote.ofSign?_eq_some_iff, Prod.mk.injEq, List.cons.injEq]
    exact ⟨by rintro ⟨a, rfl, rfl, rfl⟩; exact ⟨rfl, rfl⟩, by rintro ⟨rfl, rfl⟩; exact ⟨q, rfl, rfl, rfl⟩⟩

def read? (t : Text) : Option Wrapper := do
  let t ← Text.dropStart? head t
  let (opener, t) ← Delimiter.readOpening? t
  let r ← Text.dropStart? tail.reverse t.reverse
  let (second, r) ← readQuote? r
  let r ← Text.dropStart? replacement.reverse r
  let (first, r) ← readQuote? r
  let r ← Text.dropStart? replaceCall.reverse r
  let (closer, r) ← Delimiter.readClosing? r
  return { payload := r.reverse, opener, closer, first, second }

theorem read?_eq_some_iff {t : Text} {w : Wrapper} : read? t = some w ↔ t = w.render := by
  simp only [read?, Option.bind_eq_bind, Option.bind_eq_some_iff, Text.dropStart?_eq_some_iff, Prod.exists,
    Delimiter.readOpening?_eq_some_iff, Delimiter.readClosing?_eq_some_iff, readQuote?_eq_some_iff, Option.pure_def,
    Option.some.injEq]
  constructor
  · rintro ⟨t₁, rfl, opener, t₂, rfl, r₁, h₁, second, r₂, rfl, r₃, rfl, first, r₄, rfl, r₅, rfl, closer, r, rfl, rfl⟩
    have h₂ := congrArg List.reverse h₁
    simp only [List.reverse_reverse] at h₂
    simp [h₂, render, ending]
  · rintro rfl
    refine ⟨w.opener.opening ++ (w.payload ++ w.ending), by simp [render], w.opener, w.payload ++ w.ending, rfl,
      w.second.sign :: (replacement.reverse ++ (w.first.sign :: (replaceCall.reverse ++ (w.closer.closing.reverse
        ++ w.payload.reverse)))), by simp [ending], w.second, _, rfl, _, rfl, w.first, _, rfl, _, rfl, w.closer,
      w.payload.reverse, rfl, by simp⟩

theorem read?_render (w : Wrapper) : read? w.render = some w := read?_eq_some_iff.mpr rfl

end Wrapper

/-- The payload of code that is a wrapper once it is trimmed. -/
def payload? (code : Text) : Option Text := (Wrapper.read? code.trim).map Wrapper.payload

def isPacked (code : Text) : Bool := (payload? code).isSome

end Bytebeat.Packing
