import Bytebeat.Console.Switch

namespace Bytebeat.Console

inductive Command where
  | format (noParens : Bool) (maxParenDepth : Int)
  | pack
  | unpack
  | size (compact : Bool)
  deriving DecidableEq

structure Invocation where
  verbose : Bool := false
  command : Command
  file : Option Text := none
  deriving DecidableEq

inductive CommandName where
  | format
  | pack
  | unpack
  | size
  deriving DecidableEq

namespace CommandName

def all : List CommandName := [format, pack, unpack, size]

def text : CommandName → Text
  | format => "format"
  | pack => "pack"
  | unpack => "unpack"
  | size => "size"

def ofText? (t : Text) : Option CommandName := all.find? fun c => c.text = t

def switches : CommandName → List Switch
  | format => [.help, .noParens, .maxParenDepth]
  | pack => [.help]
  | unpack => [.help]
  | size => [.help, .compact]

end CommandName

def programName : Text := "codetool.py"

def programSwitches : List Switch := [.help, .verbose]

abbrev Scope := Option CommandName

def Scope.title : Scope → Text
  | none => programName
  | some c => programName ++ " " ++ c.text

def Scope.usage (s : Scope) : Text :=
  "usage: " ++ s.title ++
    match s with
    | none => " [-h] [--verbose] \x7bformat,pack,unpack,size\x7d ...\n"
    | some .format => " [-h] [--no-parens] [--max-paren-depth N] [file]\n"
    | some .pack => " [-h] [file]\n"
    | some .unpack => " [-h] [file]\n"
    | some .size => " [-h] [--compact] [file]\n"

def programHelp : Text :=
  "\n" ++
  "Format, pack and unpack bytebeat code\n" ++
  "\n" ++
  "positional arguments:\n" ++
  "  \x7bformat,pack,unpack,size\x7d\n" ++
  "    format              Break lines after top-level commas\n" ++
  "    pack                Pack code into an eval(unescape(escape`...`)) wrapper\n" ++
  "    unpack              Unpack a wrapper back into code\n" ++
  "    size                Print the code size\n" ++
  "\n" ++
  "options:\n" ++
  "  -h, --help            show this help message and exit\n" ++
  "  --verbose             Log debug output to stderr\n"

def formatHelp : Text :=
  "\n" ++
  "positional arguments:\n" ++
  "  file                 Input file (default: stdin)\n" ++
  "\n" ++
  "options:\n" ++
  "  -h, --help           show this help message and exit\n" ++
  "  --no-parens          Ignore parenthesis depth; split every comma outside\n" ++
  "                       arrays and strings\n" ++
  "  --max-paren-depth N  Deepest parenthesis level whose commas are split\n" ++
  "                       (default: 0)\n"

def plainHelp : Text :=
  "\n" ++
  "positional arguments:\n" ++
  "  file        Input file (default: stdin)\n" ++
  "\n" ++
  "options:\n" ++
  "  -h, --help  show this help message and exit\n"

def sizeHelp : Text := plainHelp ++ "  --compact   Print 'KiB/KB' instead of 'KiB (KB)'\n"

def Scope.help (s : Scope) : Text :=
  s.usage ++
    match s with
    | none => programHelp
    | some .format => formatHelp
    | some .pack => plainHelp
    | some .unpack => plainHelp
    | some .size => sizeHelp

inductive Stop where
  | help (scope : Scope)
  | fault (scope : Scope) (e : UsageError)
  deriving DecidableEq

structure Draft where
  noParens : Bool := false
  maxParenDepth : Int := 0
  compact : Bool := false
  file : Option Text := none
  expectsFile : Bool := true
  extras : List Text := []

namespace Draft

def command (d : Draft) : CommandName → Command
  | .format => .format d.noParens d.maxParenDepth
  | .pack => .pack
  | .unpack => .unpack
  | .size => .size d.compact

def plain (d : Draft) (given : Text) : Draft :=
  if d.expectsFile then { d with file := some given, expectsFile := false }
  else { d with extras := given :: d.extras }

def flag (d : Draft) (scope : Scope) : Switch → Except Stop Draft
  | .help => .error (.help scope)
  | .noParens => .ok { d with noParens := true }
  | .compact => .ok { d with compact := true }
  | .verbose => .ok d
  | .maxParenDepth => .ok d

def value (d : Draft) (scope : Scope) (s : Switch) (given : Text) : Except Stop Draft :=
  match Text.readInt? given with
  | some n => .ok { d with maxParenDepth := n }
  | none => .error (.fault scope (.notInteger s given))

/-- Read the tokens of a command in order. Two dashes are dropped around the file and left over after it. -/
def read (scope : Scope) (d : Draft) : List Token → Except Stop Draft
  | [] => .ok d
  | .plain given :: .dashes :: rest =>
    if d.expectsFile then read scope (d.plain given) rest
    else read scope { d with extras := "--" :: given :: d.extras } rest
  | .plain given :: rest => read scope (d.plain given) rest
  | .dashes :: .plain given :: rest =>
    if d.expectsFile then read scope (d.plain given) rest
    else read scope { d with extras := given :: "--" :: d.extras } rest
  | .dashes :: rest =>
    read scope (if d.expectsFile then { d with expectsFile := false } else { d with extras := "--" :: d.extras }) rest
  | .unknown given :: rest => read scope { d with extras := given :: d.extras } rest
  | .switch s joined :: rest =>
    if s.takesValue then
      match joined, rest with
      | .value given, rest =>
        match d.value scope s given with
        | .error stop => .error stop
        | .ok d => read scope d rest
      | _, .plain given :: rest =>
        match d.value scope s given with
        | .error stop => .error stop
        | .ok d => read scope d rest
      | _, _ => .error (.fault scope (.missingValue s))
    else
      match joinedFault? s joined with
      | some e => .error (.fault scope e)
      | none =>
        match d.flag scope s with
        | .error stop => .error stop
        | .ok d => read scope d rest

end Draft

def readCommand (c : CommandName) (args : List Text) : Except Stop Draft :=
  match tokens c.switches args with
  | .error e => .error (.fault (some c) e)
  | .ok tokens => Draft.read (some c) {} tokens

def commandOf (token : Token) : Except UsageError CommandName :=
  let known := CommandName.all.map CommandName.text
  match token with
  | .plain given => (CommandName.ofText? given).elim (.error (.unknownCommand given known)) .ok
  | _ => .error (.unknownCommand "--" known)

def readProgram (verbose : Bool) (extras : List Text) : List (Token × List Text) → Except Stop Invocation
  | [] => .error (.fault none .missingCommand)
  | (.unknown given, _) :: rest => readProgram verbose (given :: extras) rest
  | (.switch s joined, _) :: rest =>
    match joinedFault? s joined with
    | some e => .error (.fault none e)
    | none => if s = .help then .error (.help none) else readProgram true extras rest
  | (.dashes, []) :: _ => .error (.fault none .missingCommand)
  | (token, args) :: _ =>
    match commandOf token with
    | .error e => .error (.fault none e)
    | .ok c =>
      match readCommand c args with
      | .error stop => .error stop
      | .ok d =>
        match extras.reverse ++ d.extras.reverse with
        | [] => .ok { verbose, command := d.command c, file := d.file }
        | rest => .error (.fault none (.unrecognized rest))

def followers : List Text → List (List Text)
  | [] => []
  | _ :: rest => rest :: followers rest

def Invocation.ofArguments (args : List Text) : Except Stop Invocation :=
  match tokens programSwitches args with
  | .error e => .error (.fault none e)
  | .ok tokens => readProgram false [] (tokens.zip (followers args))

end Bytebeat.Console
