import Bytebeat.Console.Command
import Bytebeat.Console.Files
import Bytebeat.Tool.Builtin

namespace Bytebeat.Console

structure Output where
  exit : Nat := 0
  stdout : Text := []
  stderr : Text := []
  deriving DecidableEq

inductive Fault where
  | undecodable
  | unencodable
  | nullInPath
  deriving DecidableEq

/-- What an error stream does with surrogates: a captured one refuses them, that of a process escapes them. -/
inductive ErrorStream where
  | captured
  | ofProcess
  deriving DecidableEq

def escapeSurrogates (t : Text) : Text :=
  t.flatMap fun c => if c.isSurrogate then "\\u" ++ Text.hex 'a' 4 c.val else [c]

def Output.encoded (o : Output) (stream : ErrorStream) : Except Fault Output :=
  if o.stdout.hasSurrogate then .error .unencodable
  else
    match stream with
    | .captured => if o.stderr.hasSurrogate then .error .unencodable else .ok o
    | .ofProcess => .ok { o with stderr := escapeSurrogates o.stderr }

def lineFeed : CodePoint := '\n'

def lineFeedsOnto (done : Text) : Text → Text
  | [] => done.reverse
  | c :: rest =>
    if c ≠ '\r' then lineFeedsOnto (c :: done) rest
    else
      match rest with
      | [] => (lineFeed :: done).reverse
      | d :: rest =>
        if d = lineFeed then lineFeedsOnto (lineFeed :: done) rest else lineFeedsOnto (lineFeed :: done) (d :: rest)

def lineFeeds (t : Text) : Text := lineFeedsOnto [] t

def Stop.output : Stop → Output
  | help scope => { stdout := scope.help }
  | fault scope e => { exit := 2, stderr := scope.usage ++ scope.title ++ ": error: " ++ e.message ++ "\n" }

namespace Command

def name : Command → Text
  | format _ _ => "format"
  | pack => "pack"
  | unpack => "unpack"
  | size _ => "size"

def tool : Command → Tool
  | format _ _ => Tool.formatCode
  | pack => Tool.packCode
  | unpack => Tool.unpackCode
  | size _ => Tool.codeSize

def arguments (command : Command) (code : Text) : Arguments :=
  let args : Arguments := Table.empty.insert "code" (.text code)
  match command with
  | format noParens maxParenDepth =>
    (args.insert "consider_parens" (.bool !noParens)).insert "max_paren_depth" (.int maxParenDepth)
  | pack => args
  | unpack => args
  | size compact => args.insert "compact" (.bool compact)

def resultName : Command → Text
  | size _ => "label"
  | _ => "code"

end Command

def endLine (t : Text) : Text := if t.getLast? = some ('\n' : CodePoint) then t else t ++ "\n"

namespace Invocation

def level (inv : Invocation) : Level := if inv.verbose then .debug else .warning

def runOn (inv : Invocation) (code : Text) : Output :=
  let run := inv.command.tool.run (inv.command.arguments code)
  let report := run.report
  let notices := Notice.log inv.level run.notices
  if report.succeeded then
    let result : Text :=
      match report.field? inv.command.resultName with
      | some (.text t) => t
      | _ => []
    let done : Notice := ⟨.debug, "codetool", inv.command.name ++ " done, metadata="
      ++ (report.metadata?.elim Value.null .dict).display⟩
    { stdout := endLine result, stderr := notices ++ Notice.log inv.level [done] }
  else { exit := 1, stderr := notices ++ "error: " ++ report.error?.getD "None" ++ "\n" }

def runOnBytes (inv : Invocation) (bytes : List UInt8) (stream : ErrorStream) : Except Fault Output :=
  match Text.ofUtf8? bytes with
  | none => .error .undecodable
  | some code => (inv.runOn (lineFeeds code)).encoded stream

def unreadable (path : Path) (e : FileError) : Output :=
  { exit := 1, stderr := "error: cannot read " ++ path.text ++ ": " ++ e.describe path.text ++ "\n" }

def path? (inv : Invocation) : Except Fault (Option Path) :=
  match inv.file with
  | none => .ok none
  | some given =>
    let path := Path.ofText given
    if path.text.hasSurrogate then .error .unencodable
    else if path.text.contains '\x00' then .error .nullInPath
    else .ok (some path)

def runOnFile (inv : Invocation) (path : Path) (read : Except FileError (List UInt8)) (stream : ErrorStream) :
    Except Fault Output :=
  match read with
  | .error e => (unreadable path e).encoded stream
  | .ok bytes => inv.runOnBytes bytes stream

end Invocation

def run (args : List Text) (stdin : List UInt8) (files : Files) (stream : ErrorStream := .captured) :
    Except Fault Output :=
  match Invocation.ofArguments args with
  | .error stop => stop.output.encoded stream
  | .ok inv => do
    match ← inv.path? with
    | none => inv.runOnBytes stdin stream
    | some path => inv.runOnFile path (files.read path) stream

end Bytebeat.Console
