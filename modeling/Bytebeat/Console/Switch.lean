import Bytebeat.Text.Digit
import Bytebeat.Text.Printable

namespace Bytebeat.Console

inductive Switch where
  | help
  | verbose
  | noParens
  | maxParenDepth
  | compact
  deriving DecidableEq

namespace Switch

def names : Switch → List Text
  | help => ["-h", "--help"]
  | verbose => ["--verbose"]
  | noParens => ["--no-parens"]
  | maxParenDepth => ["--max-paren-depth"]
  | compact => ["--compact"]

def takesValue (s : Switch) : Bool := s = maxParenDepth

def label (s : Switch) : Text := Text.join "/" s.names

end Switch

inductive UsageError where
  | ambiguous (given : Text) (names : List Text)
  | ignoredValue (s : Switch) (value : Text)
  | missingValue (s : Switch)
  | notInteger (s : Switch) (value : Text)
  | unknownCommand (given : Text) (known : List Text)
  | missingCommand
  | unrecognized (rest : List Text)
  deriving DecidableEq

def UsageError.message : UsageError → Text
  | ambiguous given names => "ambiguous option: " ++ given ++ " could match " ++ Text.join ", " names
  | ignoredValue s value => "argument " ++ s.label ++ ": ignored explicit argument " ++ value.quoted
  | missingValue s => "argument " ++ s.label ++ ": expected one argument"
  | notInteger s value => "argument " ++ s.label ++ ": invalid int value: " ++ value.quoted
  | unknownCommand given known =>
    "argument command: invalid choice: " ++ given.quoted ++ " (choose from "
      ++ Text.join ", " (known.map Text.quoted) ++ ")"
  | missingCommand => "the following arguments are required: command"
  | unrecognized rest => "unrecognized arguments: " ++ Text.join " " rest

inductive Joined where
  | nothing
  | value (v : Text)
  | letters (rest : Text)
  deriving DecidableEq

inductive Token where
  | plain (given : Text)
  | switch (s : Switch) (joined : Joined)
  | unknown (given : Text)
  | dashes
  deriving DecidableEq

structure Match where
  switch : Switch
  name : Text
  joined : Joined := .nothing

def Match.token (m : Match) : Token := .switch m.switch m.joined

def allNames (switches : List Switch) : List Match :=
  switches.flatMap fun s => s.names.map fun name => { switch := s, name }

def splitValue (given : Text) : Text × Joined :=
  let name := given.takeWhile fun c => c ≠ ('=' : CodePoint)
  if name.length < given.length then (name, .value (given.drop (name.length + 1))) else (given, .nothing)

def isLong (given : Text) : Bool := (Text.dropStart? "--" given).isSome

def abbreviated (switches : List Switch) (given : Text) : List Match :=
  if isLong given then
    let (start, joined) := splitValue given
    ((allNames switches).filter fun m => (Text.dropStart? start m.name).isSome).map fun m => { m with joined }
  else
    ((allNames switches).filter fun m => m.name = given.take 2).map fun m =>
      { m with joined := .letters (given.drop 2) }

def isNegativeNumber (given : Text) : Bool :=
  let isDigit (c : CodePoint) : Bool := c.decimalDigit?.isSome
  match (Text.dropEnd? "\n" given).getD given with
  | [] => false
  | sign :: digits =>
    let fraction := digits.dropWhile isDigit
    let whole := fraction.isEmpty && !digits.isEmpty
    let pointed := fraction.head? = some ('.' : CodePoint) && 1 < fraction.length && (fraction.drop 1).all isDigit
    sign = '-' && (whole || pointed)

def classify (switches : List Switch) (given : Text) : Except UsageError Token :=
  let exact (name : Text) : Option Match := (allNames switches).find? fun m => m.name = name
  if given.head? ≠ some ('-' : CodePoint) || given.length = 1 then .ok (.plain given)
  else
    match exact given with
    | some m => .ok m.token
    | none =>
      let (name, joined) := splitValue given
      match exact name with
      | some m => .ok { m with joined }.token
      | none =>
        match abbreviated switches given with
        | [m] => .ok m.token
        | [] => .ok (if isNegativeNumber given || given.contains ' ' then .plain given else .unknown given)
        | several => .error (.ambiguous given (several.map Match.name))

def tokens (switches : List Switch) : List Text → Except UsageError (List Token)
  | [] => .ok []
  | given :: rest =>
    if given = "--" then .ok (.dashes :: rest.map .plain)
    else do
      let token ← classify switches given
      let rest ← tokens switches rest
      return token :: rest

/--
What is wrong with more letters after a short switch. The one short switch calls for help, so letters of other
switches are not looked at any more; only a value joined to it, or a dash, is a fault.
-/
def lettersFault? (s : Switch) (letter : CodePoint) : Text → Option UsageError
  | [] => none
  | c :: rest =>
    if c = '-' then some (.ignoredValue s (c :: rest))
    else if c = letter then
      if rest.head? = some ('=' : CodePoint) then some (.ignoredValue s (rest.drop 1)) else lettersFault? s letter rest
    else none

def joinedFault? (s : Switch) : Joined → Option UsageError
  | .nothing => none
  | .value v => some (.ignoredValue s v)
  | .letters rest => lettersFault? s 'h' rest

end Bytebeat.Console
