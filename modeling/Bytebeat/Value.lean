import Bytebeat.Text.Printable

namespace Bytebeat

inductive Value where
  | null
  | bool (b : Bool)
  | int (n : Int)
  | float (literal : Text)
  | text (t : Text)
  | list (items : List Value)
  | dict (entries : List (Text × Value))

inductive Kind where
  | null
  | bool
  | int
  | float
  | text
  | list
  | dict
  deriving DecidableEq

def Kind.name : Kind → Text
  | null => "NoneType"
  | bool => "bool"
  | int => "int"
  | float => "float"
  | text => "str"
  | list => "list"
  | dict => "dict"

namespace Value

instance : Inhabited Value := ⟨null⟩

def kind : Value → Kind
  | null => .null
  | bool _ => .bool
  | int _ => .int
  | float _ => .float
  | text _ => .text
  | list _ => .list
  | dict _ => .dict

def isNull (v : Value) : Bool := v.kind = .null

mutual
def display : Value → Text
  | null => "None"
  | bool b => if b then "True" else "False"
  | int n => Text.ofInt n
  | float literal => literal
  | text t => t.quoted
  | list items => "[" ++ Text.join ", " (displayItems items) ++ "]"
  | dict entries => "\x7b" ++ Text.join ", " (displayEntries entries) ++ "\x7d"

def displayItems : List Value → List Text
  | [] => []
  | v :: vs => v.display :: displayItems vs

def displayEntries : List (Text × Value) → List Text
  | [] => []
  | (name, v) :: rest => (name.quoted ++ ": " ++ v.display) :: displayEntries rest
end

end Value
end Bytebeat
