import Stencil.Settings.Basic
import Stencil.Settings.Value
import Stencil.Text.Lower

/-!
Settings from the values that all layers together assign. A section is a table of its keys, or a
list of its values in order; what is absent keeps its default.
-/
namespace Stencil.Settings

-- A value with the key it is reported under.
abbrev Keyed := Text × Value

namespace Value

-- The field of a section, known by its name in a table and by its position in a list.
def field (key : Text) (position : Nat) (name : Text) : Value → Option Keyed
  | table _ entries =>
    (entries.lookup name).map fun v => (if key = [] then name else key ++ '.' :: name, v)
  | array _ items => items[position]?.map fun v => (key ++ '[' :: Text.ofNat position ++ [']'], v)
  | scalar .. => none

-- Scalars are no sections.
def expectSection (name : Text) : Value → Except Problem Unit
  | scalar _ s => .error (.wrongSection (.scalar s) name)
  | array .. | table .. => .ok ()

end Value

-- The value of a field, or its default when it is absent.
def orDefault (default : α) (read : Text → Value → Except Problem α) : Option Keyed → Except Problem α
  | none => .ok default
  | some (key, v) => read key v

def formatOfWord (word : Text) : Except Problem LogFormat :=
  match LogFormat.ofText? (Text.lower word) with
  | some format => .ok format
  | none => .error (.unknownFormat word)

-- A format is named by a text or by the only key of a table.
def Value.format (_key : Text) : Value → Except Problem LogFormat
  | scalar _ (.text word) => formatOfWord word
  | table _ [(word, _)] => formatOfWord word
  | _ => .error .formatShape

def Views.ofValue (key : Text) (v : Value) : Except Problem Views := do
  v.expectSection "ViewsConfig"
  let base : Views := {}
  return {
    path := ⟨← orDefault base.path.text Value.text (v.field key 0 "path")⟩
    extension := ← orDefault base.extension Value.text (v.field key 1 "extension")
    maxIncludeDepth := ← orDefault base.maxIncludeDepth Value.nat (v.field key 2 "max_include_depth") }

def messagesOfValue (key : Text) (v : Value) : Except Problem Messages := do
  v.expectSection "MessagesConfig"
  let base : Messages := {}
  return {
    viewNotFound := ← orDefault base.viewNotFound Value.text (v.field key 0 "view_not_found_message")
    viewNotFoundCode := ← orDefault base.viewNotFoundCode Value.int64 (v.field key 1 "view_not_found_code")
    routeExists := ← orDefault base.routeExists Value.text (v.field key 2 "route_already_exists_message")
    routeExistsCode := ←
      orDefault base.routeExistsCode Value.int64 (v.field key 3 "route_already_exists_code") }

def Logging.ofValue (key : Text) (v : Value) : Except Problem Logging := do
  v.expectSection "LoggingConfig"
  let base : Logging := {}
  return {
    level := ← orDefault base.level Value.text (v.field key 0 "level")
    format := ← orDefault base.format Value.format (v.field key 1 "format") }

def ofValue (v : Value) : Except Problem Settings := do
  let base : Settings := {}
  return {
    views := ← orDefault base.views Views.ofValue (v.field [] 0 "views")
    messages := ← orDefault base.messages messagesOfValue (v.field [] 1 "messages")
    logging := ← orDefault base.logging Logging.ofValue (v.field [] 2 "logging") }

end Stencil.Settings
