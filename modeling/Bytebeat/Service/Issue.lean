import Bytebeat.Value

namespace Bytebeat.Service

inductive IssueKind where
  | jsonInvalid
  | missing
  | objectType
  | textType
  | boolType
  | boolParsing
  | intType
  | intParsing
  | intParsingSize
  | intFromFloat
  | finiteNumber
  | negative
  | dictType
  deriving DecidableEq

namespace IssueKind

def name : IssueKind → Text
  | jsonInvalid => "json_invalid"
  | missing => "missing"
  | objectType => "model_attributes_type"
  | textType => "string_type"
  | boolType => "bool_type"
  | boolParsing => "bool_parsing"
  | intType => "int_type"
  | intParsing => "int_parsing"
  | intParsingSize => "int_parsing_size"
  | intFromFloat => "int_from_float"
  | finiteNumber => "finite_number"
  | negative => "greater_than_equal"
  | dictType => "dict_type"

def message : IssueKind → Text
  | jsonInvalid => "JSON decode error"
  | missing => "Field required"
  | objectType => "Input should be a valid dictionary or object to extract fields from"
  | textType => "Input should be a valid string"
  | boolType => "Input should be a valid boolean"
  | boolParsing => "Input should be a valid boolean, unable to interpret input"
  | intType => "Input should be a valid integer"
  | intParsing => "Input should be a valid integer, unable to parse string as an integer"
  | intParsingSize => "Unable to parse input string as an integer, exceeded maximum size"
  | intFromFloat => "Input should be a valid integer, got a number with a fractional part"
  | finiteNumber => "Input should be a finite number"
  | negative => "Input should be greater than or equal to 0"
  | dictType => "Input should be a valid dictionary"

end IssueKind

abbrev Location := List Value

structure Issue where
  kind : IssueKind
  location : Location
  input : Value

def hiddenStart : Text := "_sa"

mutual
def shown : Value → Value
  | .list items => .list (shownItems items)
  | .dict entries => .dict (shownEntries entries)
  | other => other

def shownItems : List Value → List Value
  | [] => []
  | v :: rest => shown v :: shownItems rest

def shownEntries : List (Text × Value) → List (Text × Value)
  | [] => []
  | (name, v) :: rest =>
    if (Text.dropStart? hiddenStart name).isSome then shownEntries rest else (name, shown v) :: shownEntries rest
end

def Issue.describe (i : Issue) : Value :=
  .dict [("type", .text i.kind.name), ("loc", .list i.location), ("msg", .text i.kind.message),
    ("input", shown i.input)]

abbrev Checked (α : Type) := Except (List Issue) α

namespace Checked

variable {α β : Type}

def both (a : Checked α) (b : Checked β) : Checked (α × β) :=
  match a, b with
  | .ok a, .ok b => .ok (a, b)
  | .error e, .ok _ => .error e
  | .ok _, .error e => .error e
  | .error e, .error e' => .error (e ++ e')

def all (check : Text → α → Checked β) (entries : List (Text × α)) : Checked (List (Text × β)) :=
  entries.foldr (fun (name, a) rest => ((check name a).both rest).map fun (b, rest) => (name, b) :: rest) (.ok [])

end Checked
end Bytebeat.Service
