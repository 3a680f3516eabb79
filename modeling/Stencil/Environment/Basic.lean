import Stencil.Dictionary

/-!
The environment variables that a command sees. Those it starts with are in the order of their names, and
those that are set later follow them. All names and values are text.
-/
namespace Stencil

abbrev Environment := Dictionary Text

namespace Environment

-- Sets a variable unless it is already set. A value that holds a NUL cannot be set: the attempt to do so
-- crashes the program, and there is no environment after that.
def define? (env : Environment) (name value : Text) : Option Environment :=
  if (env.find? name).isSome then some env
  else if '\x00' ∈ value then none
  else some (env ++ [(name, value)])

end Environment
end Stencil
