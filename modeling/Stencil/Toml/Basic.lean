import Stencil.Number.Binary64
import Stencil.Text.Basic

/-!
The values of a TOML document. Moments, that is dates and times of day, are kept as their text in normal
form.
-/
namespace Stencil

inductive Toml
  | text (t : Text)
  | int (i : Int)
  | float (x : Number.Binary64)
  | bool (b : Bool)
  | moment (t : Text)
  | array (items : List Toml)
  | table (entries : List (Text × Toml))

namespace Toml

-- May the character stand in a text or a comment? Control characters other than the tab may not.
def isVisible (c : Char) : Bool :=
  c = '\t' || (' ' ≤ c && c ≠ '\x7f')

def isGap (c : Char) : Bool :=
  c = ' ' || c = '\t'

end Toml
end Stencil
