import Stencil.Json.Printer
import Stencil.Text.Blank

/-!
The values bound to names for one render, in the order of the names.
-/
namespace Stencil

structure Bindings where
  entries : Dictionary Json

namespace Bindings

inductive Error
  | notObject
  | noEquals (assignment : Text)
  | noName (assignment : Text)
deriving DecidableEq

def Error.message : Error → Text
  | notObject => "Variables must be an object"
  | noEquals assignment => "Expected NAME=VALUE, got '" ++ assignment ++ "'"
  | noName assignment => "Missing variable name in '" ++ assignment ++ "'"

def empty : Bindings := ⟨[]⟩

def isEmpty (b : Bindings) : Bool :=
  b.entries.isEmpty

def size (b : Bindings) : Nat :=
  b.entries.length

def ofJson : Json → Except Error Bindings
  | .object members => .ok ⟨members⟩
  | _ => .error .notObject

def toJson (b : Bindings) : Json :=
  .object b.entries

def ofEntries (entries : List (Text × Json)) : Bindings :=
  ⟨Dictionary.ofEntries entries⟩

def find? (b : Bindings) (name : Text) : Option Json :=
  b.entries.find? name

def insert (b : Bindings) (name : Text) (value : Json) : Bindings :=
  ⟨b.entries.insert name value⟩

-- All bindings of both, those of the second where both have one.
def merge (b other : Bindings) : Bindings :=
  ⟨b.entries.merge other.entries⟩

-- Strings stand for themselves and other values for their JSON text. A null counts as unbound.
def text? (b : Bindings) (name : Text) : Option Text :=
  match b.find? name with
  | none => none
  | some .null => none
  | some (.string t) => some t
  | some value => some value.print

-- An assignment `name=value` is split at the first equals sign; blanks around the name are dropped.
def parseAssignment (assignment : Text) : Except Error (Text × Text) :=
  match Text.splitFirst '=' assignment with
  | none => .error (.noEquals assignment)
  | some (name, value) =>
    let name := Text.trimBlank name
    if name = [] then .error (.noName assignment) else .ok (name, value)

-- Binds the names of assignments from left to right, up to the first that is not one.
def assign (b : Bindings) : List Text → Except Error Bindings
  | [] => .ok b
  | assignment :: rest =>
    match parseAssignment assignment with
    | .error e => .error e
    | .ok (name, value) => (b.insert name (.string value)).assign rest

def same (b other : Bindings) : Bool :=
  b.toJson.same other.toJson

theorem find?_insert (b : Bindings) (name other : Text) (value : Json) :
    (b.insert name value).find? other = if other = name then some value else b.find? other :=
  Dictionary.find?_insert name other value b.entries

end Bindings
end Stencil
