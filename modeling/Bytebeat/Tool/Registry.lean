import Bytebeat.Tool.Builtin

namespace Bytebeat

structure Registry where
  tools : List Tool := []
  distinct : (tools.map Tool.name).Nodup := by simp

inductive RegistryError where
  | alreadyRegistered (name : Text)
  | emptyPackage
  | relativePackage (package : Text)
  | notBuilt (message : Text)
  deriving DecidableEq

def RegistryError.message : RegistryError → Text
  | alreadyRegistered name => "Tool '" ++ name ++ "' is already registered"
  | emptyPackage => "Empty module name"
  | relativePackage package =>
    "the 'package' argument is required to perform a relative import for " ++ package.quoted
  | notBuilt message => message

/-- A class of tools: the tool that it builds without arguments, or the text of what building it raises. -/
abbrev ToolClass := Except Text Tool

/-- The classes that packages define, each in the order of its modules, or what is wrong with the name of a package. -/
abbrev Packages := Text → Except RegistryError (List ToolClass)

def toolsOfPackage (package : Text) : Except RegistryError (List ToolClass) :=
  if package.isEmpty then .error .emptyPackage
  else if package.head? = some ('.' : CodePoint) then .error (.relativePackage package)
  else .ok (if package = "tools" || package = "tools.code" then Tool.builtin.map .ok else [])

namespace Registry

def empty : Registry := {}

instance : Inhabited Registry := ⟨empty⟩

def names (r : Registry) : List Text := r.tools.map Tool.name

def get? (r : Registry) (name : Text) : Option Tool := r.tools.find? fun tool => tool.name = name

def contains (r : Registry) (name : Text) : Bool := r.names.contains name

def size (r : Registry) : Nat := r.tools.length

def describe (r : Registry) : List Value := r.tools.map Tool.describe

theorem distinct_append {tools : List Tool} {tool : Tool} (h : (tools.map Tool.name).Nodup)
    (new : tool.name ∉ tools.map Tool.name) : ((tools ++ [tool]).map Tool.name).Nodup := by
  rw [List.map_append, List.nodup_append]
  refine ⟨h, by simp, ?_⟩
  rintro a ha b hb rfl
  simp only [List.map_cons, List.map_nil, List.mem_singleton] at hb
  exact new (hb ▸ ha)

def register (r : Registry) (tool : Tool) : Except RegistryError Registry :=
  if h : tool.name ∈ r.tools.map Tool.name then .error (.alreadyRegistered tool.name)
  else .ok { tools := r.tools ++ [tool], distinct := distinct_append r.distinct h }

def registerAll (r : Registry) (done : Nat) : List ToolClass → Registry × Except RegistryError Nat
  | [] => (r, .ok done)
  | .error message :: _ => (r, .error (.notBuilt message))
  | .ok tool :: rest =>
    match r.register tool with
    | .error e => (r, .error e)
    | .ok r => r.registerAll (done + 1) rest

def discover (r : Registry) (package : Text := "tools") (packages : Packages := toolsOfPackage) :
    Registry × Except RegistryError Nat :=
  match packages package with
  | .error e => (r, .error e)
  | .ok classes => r.registerAll 0 classes

def standard : Registry := (empty.discover).1

end Registry
end Bytebeat
