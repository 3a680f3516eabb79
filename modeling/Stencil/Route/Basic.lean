import Stencil.Route.Handler
import Stencil.Route.Pattern
import Stencil.Time.Instant

/-!
A route leads requests with a method and a pattern to a handler. Its uri is the pattern without
placeholders; routes with one uri can still be told apart by their parameters.
-/
namespace Stencil

structure Route where
  method : Method
  pattern : Text
  uri : Text
  -- The names of the placeholders in order.
  params : List Text
  handler : Handler
  name? : Option Text
  registeredAt : Instant
deriving DecidableEq

namespace Route

-- The uri made of some segments.
def uriOf (segments : List Text) : Text :=
  '/' :: List.intercalate ['/'] segments

-- The route of a request at some instant. The handler is looked at first.
def build (now : Instant) (method : Method) (pattern handler : Text) (name? : Option Text) :
    Except Error Route := do
  let handler ← Handler.parse handler
  let pattern ← normalize pattern
  let segments ← Segment.parseAll (slices pattern)
  return {
    method, pattern, handler, name?
    uri := uriOf (segments.filterMap Segment.fixed?)
    params := segments.filterMap Segment.placeholder?
    registeredAt := now }

-- Requests cannot be told apart: for `get` routes only the number of parameters counts, for `post`
-- routes also their names.
def conflicts (r s : Route) : Bool :=
  r.uri = s.uri && r.method = s.method &&
    match r.method with
    | .get => r.params.length = s.params.length
    | .post => r.params = s.params

theorem uri_eq_of_conflicts {r s : Route} (h : r.conflicts s) : r.uri = s.uri := by
  simp only [conflicts, Bool.and_eq_true, decide_eq_true_eq] at h
  exact h.1.1

end Route
end Stencil
