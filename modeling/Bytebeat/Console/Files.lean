import Bytebeat.Text.Utf8
import Bytebeat.Text.Printable

namespace Bytebeat.Console

def splitSlashes (t : Text) : List Text :=
  t.foldr (fun c parts =>
    if c = ('/' : CodePoint) then [] :: parts
    else
      match parts with
      | [] => [[c]]
      | part :: parts => (c :: part) :: parts) [[]]

structure Path where
  root : Text := []
  steps : List Text := []
  deriving DecidableEq

namespace Path

def ofText (t : Text) : Path :=
  let slashes := (t.takeWhile fun c => c = ('/' : CodePoint)).length
  { root := if slashes = 0 then [] else if slashes = 2 then "//" else "/"
    steps := (splitSlashes t).filter fun step => !step.isEmpty && step ≠ ("." : Text) }

def text (p : Path) : Text :=
  if p.root.isEmpty && p.steps.isEmpty then "." else p.root ++ Text.join "/" p.steps

end Path

inductive FileError where
  | missing
  | notDirectory
  | isDirectory
  | nameTooLong
  | other (number : Nat) (message : Text)
  deriving DecidableEq

namespace FileError

def number : FileError → Nat
  | missing => 2
  | notDirectory => 20
  | isDirectory => 21
  | nameTooLong => 36
  | other number _ => number

def message : FileError → Text
  | missing => "No such file or directory"
  | notDirectory => "Not a directory"
  | isDirectory => "Is a directory"
  | nameTooLong => "File name too long"
  | other _ message => message

def describe (e : FileError) (path : Text) : Text :=
  "[Errno " ++ Text.ofNat e.number ++ "] " ++ e.message ++ ": " ++ path.quoted

end FileError

/-- Files and directories by their steps from the working directory; a directory has no bytes. -/
structure Files where
  entries : List (List Text × Option (List UInt8)) := []

inductive Found where
  | nothing
  | directory
  | file (bytes : List UInt8)

namespace Files

def find (files : Files) (steps : List Text) : Found :=
  match files.entries.lookup steps with
  | some (some bytes) => .file bytes
  | some none => .directory
  | none =>
    if steps.isEmpty || files.entries.any fun entry => steps.isPrefixOf entry.1 then .directory else .nothing

def stepLimit : Nat := 255

def pathLimit : Nat := 4095

def walk (files : Files) (here : Option (List Text)) : List Text → Except FileError (List UInt8)
  | [] =>
    match here with
    | none => .error .isDirectory
    | some here =>
      match files.find here with
      | .nothing => .error .missing
      | .directory => .error .isDirectory
      | .file bytes => .ok bytes
  | step :: rest =>
    match here with
    | none =>
      if step = ".." then files.walk none rest
      else .error (if stepLimit < step.utf8Length then .nameTooLong else .missing)
    | some here =>
      match files.find here with
      | .nothing => .error .missing
      | .file _ => .error .notDirectory
      | .directory =>
        if stepLimit < step.utf8Length then .error .nameTooLong
        else if step = ".." then files.walk (if here.isEmpty then none else some here.dropLast) rest
        else files.walk (some (here ++ [step])) rest

def read (files : Files) (path : Path) : Except FileError (List UInt8) :=
  if pathLimit < path.text.utf8Length then .error .nameTooLong
  else files.walk (if path.root.isEmpty then some [] else none) path.steps

end Files
end Bytebeat.Console
