import Bytebeat.Layout.Config
import Bytebeat.Layout.Outcome
import Bytebeat.Table
import Bytebeat.Tool.Notice

/-!
Tools: named operations that take named arguments and report an outcome.

A call checks the arguments against the declared parameters, fills in the defaults of optional ones and runs the
tool. A null argument counts as omitted. What goes wrong in this comes back as a failure in the report, but for two
things: an argument under the name by which a tool refers to itself, and an exception that cannot be printed.
-/

namespace Bytebeat

structure Parameter where
  name : Text
  kind : Kind
  description : Text := []
  required : Bool := true
  default : Value := .null

abbrev Arguments := Table Value

def Arguments.given? (args : Arguments) (name : Text) : Option Value :=
  (args.get? name).filter fun v => !v.isNull

inductive InputError where
  | unknownNames (tool : Text) (names : List Text)
  | missing (parameter : Text)
  | wrongKind (parameter : Text) (expected got : Kind)
  deriving DecidableEq

def InputError.message : InputError → Text
  | unknownNames tool names => "Unknown parameter(s) for '" ++ tool ++ "': " ++ Text.join ", " names
  | missing parameter => "Required parameter '" ++ parameter ++ "' is missing"
  | wrongKind parameter expected got =>
    "Parameter '" ++ parameter ++ "' must be " ++ expected.name ++ ", got " ++ got.name

inductive Failure where
  | badInput (e : InputError)
  | badConfig (e : Layout.ConfigError)
  | unbalanced (i : Layout.Imbalance)
  | alreadyPacked
  | notReversible
  | brokeOff (message : Text)
  deriving DecidableEq

def Failure.message : Failure → Text
  | badInput e => e.message
  | badConfig e => e.message
  | unbalanced i => "Format failed: " ++ i.reason ++ "!"
  | alreadyPacked => "Code is already packed."
  | notReversible => "Packing reverted: the packed code does not round-trip."
  | brokeOff message => "Tool execution failed: " ++ message

abbrev Fields := List (Text × Value)

structure Report where
  succeeded : Bool
  data? : Option Fields := none
  error? : Option Text := none
  metadata? : Option Fields := none

namespace Report

def success (data : Fields) (metadata : Option Fields) : Report :=
  { succeeded := true, data? := some data, metadata? := metadata }

def failure (cause : Failure) (metadata : Option Fields) : Report :=
  { succeeded := false, error? := some cause.message, metadata? := metadata }

def field? (r : Report) (name : Text) : Option Value := r.data?.bind (·.lookup name)

variable (data : Fields) (cause : Failure) (metadata : Option Fields) (name : Text)

@[simp] theorem succeeded_success : (success data metadata).succeeded = true := rfl
@[simp] theorem error?_success : (success data metadata).error? = none := rfl
@[simp] theorem field?_success : (success data metadata).field? name = data.lookup name := rfl
@[simp] theorem succeeded_failure : (failure cause metadata).succeeded = false := rfl
@[simp] theorem error?_failure : (failure cause metadata).error? = some cause.message := rfl
@[simp] theorem field?_failure : (failure cause metadata).field? name = none := rfl

end Report

/-- What running a tool comes to: a report, or the text of what it breaks off with, which may be one that cannot be
had since printing it breaks off in turn. -/
structure Execution where
  outcome : Except Text Report
  notices : List Notice := []
  printable : Bool := true

structure Tool where
  name : Text
  description : Text := []
  parameters : List Parameter := []
  execute : Arguments → Execution
  className : Text := "CodeTool"

namespace Parameter

def fault? (p : Parameter) (args : Arguments) : Option InputError :=
  match args.given? p.name with
  | none => if p.required then some (.missing p.name) else none
  | some v => if v.kind = p.kind then none else some (.wrongKind p.name p.kind v.kind)

def fill (args : Arguments) (p : Parameter) : Arguments :=
  if (args.given? p.name).isNone && !p.required then args.insert p.name p.default else args

def describe (p : Parameter) : Value :=
  .dict [("name", .text p.name), ("type", .text p.kind.name), ("description", .text p.description),
    ("required", .bool p.required), ("default", p.default)]

end Parameter

/-- What a call comes to. It has no report if it was to report what cannot be printed. -/
structure Run where
  report? : Option Report
  notices : List Notice

def Run.report (run : Run) : Report := run.report?.getD { succeeded := false }

def reservedName : Text := "self"

inductive CallError where
  | reserved
  deriving DecidableEq

namespace Tool

def unknownNames (tool : Tool) (args : Arguments) : List Text :=
  (args.names.filter fun name => !(tool.parameters.map Parameter.name).contains name).mergeSort Text.le

def fault? (tool : Tool) (args : Arguments) : Option InputError :=
  match tool.unknownNames args with
  | [] => tool.parameters.findSome? fun p => p.fault? args
  | names => some (.unknownNames tool.name names)

def withDefaults (tool : Tool) (args : Arguments) : Arguments := tool.parameters.foldl Parameter.fill args

def callLog : Text := "tools.base"

def perform (tool : Tool) (received : Arguments) : Execution :=
  if received.contains reservedName then
    { outcome := .error (tool.className ++ ".execute() got multiple values for argument '" ++ reservedName ++ "'") }
  else tool.execute received

def reject (tool : Tool) (e : InputError) : Run where
  report? := some (.failure (.badInput e) none)
  notices := [⟨.warning, callLog, "Tool '" ++ tool.name ++ "' rejected input: " ++ e.message⟩]

def conclude (tool : Tool) (execution : Execution) : Run :=
  match execution.outcome with
  | .ok report => { report? := some report, notices := execution.notices }
  | .error message =>
    { report? := if execution.printable then some (.failure (.brokeOff message) none) else none
      notices := execution.notices ++ [⟨.error, callLog, "Tool '" ++ tool.name ++ "' failed"⟩] }

def run (tool : Tool) (args : Arguments) : Run :=
  match tool.fault? args with
  | some e => tool.reject e
  | none => tool.conclude (tool.perform (tool.withDefaults args))

def call (tool : Tool) (args : Arguments) : Except CallError Run :=
  if args.contains reservedName then .error .reserved else .ok (tool.run args)

def describe (tool : Tool) : Value :=
  .dict [("name", .text tool.name), ("description", .text tool.description),
    ("parameters", .list (tool.parameters.map Parameter.describe))]

end Tool
end Bytebeat
