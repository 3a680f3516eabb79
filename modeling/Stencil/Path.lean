import Stencil.Text.Basic

/-!
Paths are kept as they were written, because that is how they are reported; `Path.components` says
which paths mean the same.
-/
namespace Stencil

structure Path where
  text : Text
deriving DecidableEq

namespace Path

inductive Component
  | root
  | here
  | parent
  | name (n : Text)
deriving DecidableEq

-- The component that a part between slashes adds to a path that has already begun.
def Component.ofPart? (part : Text) : Option Component :=
  if part = [] || part = ['.'] then none
  else if part = ['.', '.'] then some parent
  else some (name part)

def isRooted (p : Path) : Bool :=
  p.text.head? = some '/'

-- Repeated slashes and inner dots add nothing; a dot at the start of a relative path counts.
def components (p : Path) : List Component :=
  match Text.split '/' p.text with
  | [] => []
  | first :: rest =>
    let start :=
      if p.isRooted then some .root
      else if first = ['.'] then some .here
      else Component.ofPart? first
    start.toList ++ rest.filterMap Component.ofPart?

-- Two paths are the same when their components are.
def same (p q : Path) : Bool :=
  p.components = q.components

-- Appends a segment, after a slash where one is missing. A segment that starts at the root stands
-- for itself.
def push (p : Path) (segment : Text) : Path :=
  if segment.head? = some '/' then ⟨segment⟩
  else if p.text = [] || p.text.getLast? = some '/' then ⟨p.text ++ segment⟩
  else ⟨p.text ++ '/' :: segment⟩

-- The name that a path ends in, if it ends in one.
def lastName? (p : Path) : Option Text :=
  match p.components.getLast? with
  | some (.name n) => some n
  | _ => none

-- What follows the last dot of a name that has more in front of it.
def extension? (p : Path) : Option Text := do
  let reversed := (← p.lastName?).reverse
  let before := (reversed.dropWhile (· ≠ '.')).drop 1
  guard (before ≠ [])
  return (reversed.takeWhile (· ≠ '.')).reverse

def Component.text : Component → Text
  | root => []
  | here => ['.']
  | parent => ['.', '.']
  | name n => n

def ofComponents : List Component → Path
  | [] => ⟨[]⟩
  | [.root] => ⟨['/']⟩
  | components => ⟨List.intercalate ['/'] (components.map Component.text)⟩

-- A text from right to left, without the slashes and lone dots after its last name.
def fromLastName : Text → Text
  | '/' :: t => fromLastName t
  | '.' :: '/' :: t => fromLastName t
  | t => t

-- The path whose last name is longer by a dot and an extension.
def withExtension? (p : Path) (extension : Text) : Option Path :=
  p.lastName?.map fun _ => ⟨(fromLastName p.text.reverse).reverse ++ '.' :: extension⟩

end Path
end Stencil
