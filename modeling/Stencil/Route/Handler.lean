import Stencil.Route.Error

/-!
A handler is written `Controller@action`, with exactly one at sign and something on both sides of
it.
-/
namespace Stencil

structure Handler where
  controller : Text
  action : Text
deriving DecidableEq

namespace Handler

def text (h : Handler) : Text :=
  h.controller ++ '@' :: h.action

def parse (t : Text) : Except Route.Error Handler :=
  match Text.splitFirst '@' t with
  | some (controller, action) =>
    if controller ≠ [] && action ≠ [] && !action.contains '@' then .ok { controller, action }
    else .error (.badHandler t)
  | none => .error (.badHandler t)

end Handler
end Stencil
