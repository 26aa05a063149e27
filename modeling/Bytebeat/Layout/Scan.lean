import Bytebeat.Layout.Config
import Bytebeat.Layout.Outcome

/-!
The layout pass: one scan over the code that keeps the open literal and the two bracket depths, and puts a line
break after every comma that the config allows.

The state moves by `State.step`, which knows no config, so the verdict on the brackets is the same for all
configs. `State.breaks` decides on the line break after the state has moved.
-/

namespace Bytebeat.Layout

def isQuote (c : CodePoint) : Bool := c = '\x60' || c = '\'' || c = '"'

structure State where
  literal : Option CodePoint := none
  previous : Option CodePoint := none
  parens : Nat := 0
  arrays : Nat := 0
  deriving DecidableEq

namespace State

/-- Inside a literal, only its own quote counts, and only where no backslash stands right before it. -/
def inLiteral (s : State) (quote c : CodePoint) : State :=
  if c = quote && s.previous ≠ some ('\\' : CodePoint) then { s with literal := none, previous := some c }
  else { s with previous := some c }

def outside (s : State) (c : CodePoint) : Except Imbalance State :=
  let s := { s with previous := some c }
  if isQuote c then .ok { s with literal := some c }
  else if c = '(' then .ok { s with parens := s.parens + 1 }
  else if c = ')' then if s.parens = 0 then .error .parenthesis else .ok { s with parens := s.parens - 1 }
  else if c = '[' then .ok { s with arrays := s.arrays + 1 }
  else if c = ']' then if s.arrays = 0 then .error .array else .ok { s with arrays := s.arrays - 1 }
  else .ok s

def step (s : State) (c : CodePoint) : Except Imbalance State :=
  match s.literal with
  | some quote => .ok (s.inLiteral quote c)
  | none => s.outside c

/-- Whether a line ends after a code point, given the state before it and what comes next. -/
def breaks (config : Config) (s : State) (c : CodePoint) (next : Option CodePoint) : Bool :=
  s.literal.isNone && c = ',' && s.arrays = 0 && config.allows s.parens && next ≠ some ('\n' : CodePoint)

def finish (s : State) : Except Imbalance Unit :=
  if s.arrays ≠ 0 then .error .array else if s.parens ≠ 0 then .error .parenthesis else .ok ()

end State

/-- The scan from a given state, on top of what is done, which is kept in reverse. -/
def scan (config : Config) (s : State) (done : Text) : Text → Outcome
  | [] => s.finish.map fun _ => done.reverse
  | c :: rest =>
    match s.step c with
    | .error i => .error i
    | .ok s' => scan config s' (if s.breaks config c rest.head? then '\n' :: c :: done else c :: done) rest

/-- The code with a line break after every comma that the config allows, unless its brackets do not balance. -/
def format (config : Config) (code : Text) : Outcome := scan config {} [] code

theorem scan_eq_map (config : Config) (s : State) (done code : Text) :
    scan config s done code = (scan config s [] code).map (done.reverse ++ ·) := by
  induction code generalizing s done with
  | nil => simp only [scan]; cases s.finish <;> simp [Except.map]
  | cons c rest ih =>
    simp only [scan]
    cases s.step c with
    | error i => rfl
    | ok s' =>
      by_cases h : s.breaks config c rest.head?
      · simp only [h, if_true]
        rw [ih s' ('\n' :: c :: done), ih s' ['\n', c]]
        cases scan config s' [] rest <;> simp [Except.map]
      · simp only [h, if_false, Bool.false_eq_true]
        rw [ih s' (c :: done), ih s' [c]]
        cases scan config s' [] rest <;> simp [Except.map]

structure Formatter where
  config : Config := {}
  deriving DecidableEq

def Formatter.format (f : Formatter) (code : Text) (config : Option Config) : Outcome :=
  Layout.format (config.getD f.config) code

end Bytebeat.Layout
