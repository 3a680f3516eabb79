import Stencil.Json.Reader
import Stencil.Json.Record
import Stencil.Settings.Basic

/-!
Settings from a JSON record. Every field may be absent, but a field that is there has to have the
type of the setting.
-/
namespace Stencil

open Json (Tree)
open Json.Tree (orElse)

namespace Settings

def Views.ofTree? (t : Tree) : Option Views := do
  let base : Views := {}
  let [path, extension, depth] ← t.fields? ["path", "extension", "max_include_depth"] | none
  return {
    path := ⟨← orElse base.path.text Tree.text? path⟩
    extension := ← orElse base.extension Tree.text? extension
    maxIncludeDepth := ← orElse base.maxIncludeDepth (Tree.nat? (Nat.pow 2 64 - 1)) depth }

end Settings

-- A whole number of 64 bits with a sign.
def Messages.codeOfTree? : Tree → Option Int :=
  Tree.int? (-(Nat.pow 2 63)) (Nat.pow 2 63 - 1)

def Messages.ofTree? (t : Tree) : Option Messages := do
  let base : Messages := {}
  let [viewNotFound, viewNotFoundCode, routeExists, routeExistsCode] ← t.fields?
    ["view_not_found_message", "view_not_found_code", "route_already_exists_message",
      "route_already_exists_code"] | none
  return {
    viewNotFound := ← orElse base.viewNotFound Tree.text? viewNotFound
    viewNotFoundCode := ← orElse base.viewNotFoundCode codeOfTree? viewNotFoundCode
    routeExists := ← orElse base.routeExists Tree.text? routeExists
    routeExistsCode := ← orElse base.routeExistsCode codeOfTree? routeExistsCode }

namespace Settings

def Logging.ofTree? (t : Tree) : Option Logging := do
  let base : Logging := {}
  let [level, format] ← t.fields? ["level", "format"] | none
  return {
    level := ← orElse base.level Tree.text? level
    format := ← orElse base.format (fun t => t.word?.bind LogFormat.ofText?) format }

def ofTree? (t : Tree) : Option Settings := do
  let base : Settings := {}
  let [views, messages, logging] ← t.fields? ["views", "messages", "logging"] | none
  return {
    views := ← orElse base.views Views.ofTree? views
    messages := ← orElse base.messages Messages.ofTree? messages
    logging := ← orElse base.logging Logging.ofTree? logging }

def parse? (t : Text) : Option Settings :=
  (Tree.parse? t).bind ofTree?

end Settings
end Stencil
