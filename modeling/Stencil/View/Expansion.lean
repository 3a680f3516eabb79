import Stencil.Directive.Inclusion
import Stencil.Journal
import Stencil.View.Error
import Stencil.View.Resolver

/-!
Expansion puts the partials of a view in the place of its inclusions. Each file is expanded with the
chain of files that lead to it: a partial that is already on the chain would never end, and a chain
may not grow past a limit. The number of inclusions that are still allowed bounds the recursion.
-/
namespace Stencil.View

open Directive Text

-- A file tree seen through a resolver.
structure Site where
  tree : FileTree
  resolver : Resolver

namespace Site

variable (s : Site)

-- Where the partial of an inclusion is.
def partialPath (d : Inclusion) : Path :=
  s.resolver.resolve d.target

-- The text of a view, or none when there is no such file.
def read (path : Path) : Except Error (Option Text) :=
  match s.tree.readText path with
  | .ok text => .ok (some text)
  | .error .missing => .ok none
  | .error failure => .error (.unreadable path failure)

-- What to do with a partial that exists and is not on the chain.
abbrev Descent := List Path → Inclusion → Path → Recorded Error (Option Text)

-- What to put in the place of an inclusion in the last file of the chain. None leaves it there.
def partialText (descend : Descent) (chain : List Path) (d : Inclusion) : Recorded Error (Option Text) := do
  let path := s.partialPath d
  if !s.tree.isFile path then
    Recorded.note (.partialMissing d.target path)
    return none
  else if chain.any (·.same path) then
    Recorded.note (.cycleFound d.target)
    Recorded.fail (.cycle (chain ++ [path]))
  else
    descend chain d path

end Site

-- Puts the texts of inclusions into a buffer, one inclusion after the other and each of them
-- wherever it occurs by then.
def fill (partialText : Inclusion → Recorded Error (Option Text)) (buffer : Text) :
    List Inclusion → Recorded Error Text
  | [] => pure buffer
  | d :: rest => do
    match ← partialText d with
    | none => fill partialText buffer rest
    | some body => fill partialText (replaceAll d.raw body buffer) rest

namespace Site

variable (s : Site)

def expandFile (descend : Descent) (above : List Path) (path : Path) : Recorded Error (Option Text) := do
  match ← Recorded.ofExcept (s.read path) with
  | none => return none
  | some text =>
    let filled ← fill (s.partialText descend (above ++ [path])) text (Inclusion.distinct text)
    return some filled

-- No further inclusion is allowed.
def refuse (limit : Nat) : Descent := fun _ d _ => do
  Recorded.note (.tooDeep d.target limit)
  Recorded.fail (.tooDeep d.target limit)

-- Expands the view at a path that the files `above` lead to, with `left` inclusions allowed below
-- it.
def expandBelow (limit : Nat) : (left : Nat) → (above : List Path) → Path → Recorded Error (Option Text)
  | 0 => s.expandFile (refuse limit)
  | left + 1 => s.expandFile fun chain _ path => do
    let body ← expandBelow limit left chain path
    if body.isSome then Recorded.note .partialIncluded
    return body

-- The expanded view at a path, or none when there is no such file.
def expand (limit : Nat) (path : Path) : Recorded Error (Option Text) :=
  s.expandBelow limit limit [] path

end Site
end Stencil.View
