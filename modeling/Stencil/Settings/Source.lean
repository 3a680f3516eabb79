import Stencil.Environment.Basic
import Stencil.Json.Basic
import Stencil.Settings.Basic
import Stencil.Settings.Layer
import Stencil.Text.Lower
import Stencil.Text.Segment
import Stencil.Toml.Basic

/-!
The layers that settings are made of: the built-in defaults, documents, and environment variables.
-/
namespace Stencil.Settings

namespace Value

mutual

def ofToml (origin : Text) : Toml → Value
  | .text t | .moment t => scalar (some origin) (.text t)
  | .int i => scalar (some origin) (.int i)
  | .float x => scalar (some origin) (.float x)
  | .bool b => scalar (some origin) (.bool b)
  | .array items => array (some origin) (ofTomlItems origin items)
  | .table entries => table (some origin) (ofTomlEntries origin entries)

def ofTomlItems (origin : Text) : List Toml → List Value
  | [] => []
  | item :: items => ofToml origin item :: ofTomlItems origin items

def ofTomlEntries (origin : Text) : List (Text × Toml) → List (Text × Value)
  | [] => []
  | (key, v) :: entries => (key, ofToml origin v) :: ofTomlEntries origin entries

end

-- Whole numbers beyond 63 bits become floating-point values.
def ofNumeric : Json.Numeric → Scalar
  | .int i => if i ≤ Scalar.maxInt then .int i else .float (.ofInt i)
  | .double x => .float x

mutual

def ofJson (origin : Text) : Json → Value
  | .null => scalar (some origin) .nil
  | .bool b => scalar (some origin) (.bool b)
  | .number n => scalar (some origin) (ofNumeric n)
  | .string t => scalar (some origin) (.text t)
  | .array items => array (some origin) (ofJsonItems origin items)
  | .object members => table (some origin) (ofJsonMembers origin members)

def ofJsonItems (origin : Text) : List Json → List Value
  | [] => []
  | item :: items => ofJson origin item :: ofJsonItems origin items

def ofJsonMembers (origin : Text) : List (Text × Json) → List (Text × Value)
  | [] => []
  | (key, v) :: members => (key, ofJson origin v) :: ofJsonMembers origin members

end
end Value

-- The defaults, written nowhere.
def defaults : Layer :=
  let base : Settings := {}
  let text (t : Text) : Value := .scalar none (.text t)
  let int (i : Int) : Value := .scalar none (.int i)
  [("views.path", text base.views.path.text),
    ("views.extension", text base.views.extension),
    ("views.max_include_depth", int base.views.maxIncludeDepth),
    ("messages.view_not_found_message", text base.messages.viewNotFound),
    ("messages.view_not_found_code", int base.messages.viewNotFoundCode),
    ("messages.route_already_exists_message", text base.messages.routeExists),
    ("messages.route_already_exists_code", int base.messages.routeExistsCode),
    ("logging.level", text base.logging.level),
    ("logging.format", text base.logging.format.text)]

-- Variables with this in front of their names are settings.
def variablePrefix : Text := "ara__"

-- The key that a variable sets: its name in lower case, with dots for double underscores.
def keyOfVariable? (name : Text) : Option Text :=
  (variablePrefix.isPrefixOf? (Text.lower name)).map fun key => Text.replaceAll "__" "." key

-- A text as the truth value or number that it spells, or else as a text.
def Scalar.ofText (t : Text) : Scalar :=
  let word := Text.lowerAscii t
  if word = "true" then .bool true
  else if word = "false" then .bool false
  else match Number.int? minInt maxInt t with
    | some i => .int i
    | none =>
      match Number.double? t with
      | some x => .float x
      | none => .text t

def ofEnvironment (env : Environment) : Layer :=
  env.filterMap fun (name, t) =>
    (keyOfVariable? name).map fun key => (key, .scalar (some "the environment") (Scalar.ofText t))

end Stencil.Settings
