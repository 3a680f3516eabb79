import Stencil.Dictionary
import Stencil.Journal
import Stencil.Messages
import Stencil.Route.Basic

/-!
A registry keeps the accepted routes in buckets by uri, so that a new route is compared only with
those that it can conflict with. Numbers in order of acceptance bring the routes back together.
-/
namespace Stencil

-- The accepted routes with one uri, each with its number.
abbrev Registry.Bucket := List (Nat × Route)

structure Registry where
  buckets : Dictionary Registry.Bucket
  -- The pattern last registered under a name.
  names : Dictionary Text
  next : Nat
  messages : Messages

-- What a caller asks to be registered.
structure Registry.Request where
  method : Method
  pattern : Text
  handler : Text
  name? : Option Text
deriving DecidableEq

namespace Registry

def empty (messages : Messages) : Registry where
  buckets := []
  names := []
  next := 0
  messages

def bucket (g : Registry) (uri : Text) : Bucket :=
  (g.buckets.find? uri).getD []

-- Adds a route that conflicts with none.
def accept (g : Registry) (r : Route) : Registry :=
  { g with
    buckets := g.buckets.insert r.uri (g.bucket r.uri ++ [(g.next, r)])
    names := match r.name? with
      | some name => g.names.insert name r.pattern
      | none => g.names
    next := g.next + 1 }

-- The registry after a request, and the route or why there is none.
def register (g : Registry) (now : Instant) (q : Request) : Registry × Recorded Route.Error Route :=
  match Route.build now q.method q.pattern q.handler q.name? with
  | .error e => (g, .fail e)
  | .ok r =>
    if (g.bucket r.uri).any fun entry => entry.2.conflicts r then
      (g, ⟨[.routeTaken r.method.text r.pattern],
        .error (.taken r.method r.pattern g.messages.routeExists g.messages.routeExistsCode)⟩)
    else
      (g.accept r, ⟨[.routeAdded r.method.text r.pattern r.handler.text], .ok r⟩)

-- The pattern to use for a route's name.
def uriFor? (g : Registry) (name : Text) : Option Text :=
  g.names.find? name

def numbered (g : Registry) : List (Nat × Route) :=
  g.buckets.flatMap Prod.snd

-- All routes in the order in which they were accepted.
def routes (g : Registry) : List Route :=
  (g.numbered.mergeSort fun a b => a.1 ≤ b.1).map Prod.snd

def size (g : Registry) : Nat :=
  g.numbered.length

def isEmpty (g : Registry) : Bool :=
  g.size = 0

end Registry
end Stencil
