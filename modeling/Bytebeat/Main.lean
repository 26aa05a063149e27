import Bytebeat.Console.Run

namespace Bytebeat.Console

def fileError (e : IO.Error) : FileError :=
  match e with
  | .noFileOrDirectory _ _ _ => .missing
  | .noSuchThing _ _ _ => .missing
  | .inappropriateType _ code message =>
    if code = 20 then .notDirectory else if code = 21 then .isDirectory else .other code.toNat message
  | .invalidArgument _ code message => if code = 36 then .nameTooLong else .other code.toNat message
  | .permissionDenied _ code _ => .other code.toNat "Permission denied"
  | other => .other 5 (toString other)

def readFile (path : Path) : IO (Except FileError (List UInt8)) := do
  let some name := path.text.toString? | return .error .missing
  try
    let bytes ← IO.FS.readBinFile name
    return .ok bytes.toList
  catch e => return .error (fileError e)

def readInput : IO (List UInt8) := do
  let bytes ← (← IO.getStdin).readBinToEnd
  return bytes.toList

def bytesOf (t : Text) : ByteArray := ⟨t.utf8.toArray⟩

def finish (outcome : Except Fault Output) : IO UInt32 := do
  match outcome with
  | .ok o =>
    (← IO.getStdout).write (bytesOf o.stdout)
    (← IO.getStderr).write (bytesOf o.stderr)
    return UInt32.ofNat o.exit
  | .error fault =>
    IO.eprintln (match fault with
      | .undecodable => "error: the input is no UTF-8 text"
      | .unencodable => "error: the output cannot be written as UTF-8"
      | .nullInPath => "error: embedded null byte")
    return 1

end Bytebeat.Console

open Bytebeat Console in
def main (args : List String) : IO UInt32 := do
  match Invocation.ofArguments (args.map Text.ofString) with
  | .error stop => finish (stop.output.encoded .ofProcess)
  | .ok inv =>
    match inv.path? with
    | .error fault => finish (.error fault)
    | .ok none => finish (inv.runOnBytes (← readInput) .ofProcess)
    | .ok (some path) => finish (inv.runOnFile path (← readFile path) .ofProcess)
