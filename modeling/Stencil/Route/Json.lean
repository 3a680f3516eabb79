import Stencil.Json.Printer
import Stencil.Json.Reader
import Stencil.Json.Record
import Stencil.Route.Basic
import Stencil.Time.Printer
import Stencil.Time.Reader

/-!
Routes and handlers as JSON.
-/
namespace Stencil

namespace Handler

def toJson (h : Handler) : Json :=
  .object [("controller", .string h.controller), ("action", .string h.action)]

def ofTree? (t : Json.Tree) : Option Handler := do
  let [some controller, some action] ← t.fields? ["controller", "action"] | none
  return { controller := ← controller.text?, action := ← action.text? }

end Handler

namespace Route

-- A route without a name has no member for it.
def members (r : Route) : List (Text × Json) :=
  let last : List (Text × Json) := [("registered_at", .string r.registeredAt.print)]
  let named : List (Text × Json) := match r.name? with
    | none => last
    | some name => ("name", .string name) :: last
  ("method", .string r.method.text) ::
  ("pattern", .string r.pattern) ::
  ("uri", .string r.uri) ::
  ("params", .array (r.params.map Json.string)) ::
  ("handler", r.handler.toJson) :: named

def toJson (r : Route) : Json :=
  .object r.members

def print (r : Route) : Text :=
  r.toJson.print

-- A name that is absent or null is none.
def nameOfTree? : Option Json.Tree → Option (Option Text)
  | none | some .null => some none
  | some t => t.text?.map some

def ofTree? (t : Json.Tree) : Option Route := do
  let [some method, some pattern, some uri, some params, some handler, name?, some registeredAt] ←
    t.fields? ["method", "pattern", "uri", "params", "handler", "name", "registered_at"] | none
  return {
    method := ← Method.ofText? (← method.word?)
    pattern := ← pattern.text?
    uri := ← uri.text?
    params := ← params.list? Json.Tree.text?
    handler := ← Handler.ofTree? handler
    name? := ← nameOfTree? name?
    registeredAt := ← Instant.parse? (← registeredAt.text?) }

def parse? (t : Text) : Option Route :=
  (Json.Tree.parse? t).bind ofTree?

end Route
end Stencil
