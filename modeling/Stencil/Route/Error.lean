import Stencil.Text.Basic

/-!
The methods of a route, and why a route is refused.
-/
namespace Stencil

inductive Method
  | get
  | post
deriving DecidableEq

namespace Method

def text : Method → Text
  | get => "GET"
  | post => "POST"

def ofText? (t : Text) : Option Method :=
  if t = "GET" then some get else if t = "POST" then some post else none

end Method

inductive Route.Error
  | taken (method : Method) (pattern message : Text) (code : Int)
  | badHandler (text : Text)
  | blankInPattern (pattern : Text)
  | badPlaceholder (segment : Text)
deriving DecidableEq

namespace Route.Error

def message : Route.Error → Text
  | taken method pattern message _ => message ++ ": " ++ method.text ++ " " ++ pattern
  | badHandler text => "Invalid route handler: expected Controller@action, got '" ++ text ++ "'"
  | blankInPattern pattern => "Invalid route pattern: '" ++ pattern ++ "' contains whitespace"
  | badPlaceholder segment => "Invalid route pattern: malformed placeholder '" ++ segment ++ "'"

-- The code that the application chose for the error.
def external? : Route.Error → Option Int
  | taken _ _ _ code => some code
  | _ => none

end Route.Error
end Stencil
