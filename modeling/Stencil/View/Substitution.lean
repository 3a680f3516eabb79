import Stencil.Bindings
import Stencil.Directive.Variable
import Stencil.Journal
import Stencil.Markup

/-!
Substitution puts values in the place of variables. The variables are those of the text as it
is given; each of them is replaced wherever it occurs by then.
-/
namespace Stencil.View

open Directive Text

-- A bound value goes in as it is or escaped, as the variable asks; a default goes in as it is.
def valueText (b : Bindings) (v : Variable) : Text :=
  match b.text? v.name with
  | some value => if v.escaped then Markup.escape value else value
  | none => v.fallback

def substitute (b : Bindings) (t : Text) : Text :=
  (Variable.distinct t).foldl (fun buffer v => replaceAll v.raw (valueText b v) buffer) t

-- One note for each variable, of those that read alike only for the first.
def substitutionNotes (b : Bindings) (t : Text) : Journal :=
  (Variable.distinct t).map fun v => if (b.text? v.name).isSome then .valueBound else .valueDefaulted

end Stencil.View
