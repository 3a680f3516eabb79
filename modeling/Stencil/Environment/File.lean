import Stencil.Environment.Assignment
import Stencil.Environment.Line
import Stencil.FileTree

/-!
A file `.env` in the working folder, or else in the nearest folder above it that has one, sets
further variables. It never changes a variable that is set, and its first malformed line ends it. A
line that crashes the program leaves no environment behind.
-/
namespace Stencil.Environment

-- The environment after some lines of assignments.
def defineLines? (env : Environment) : List (Option Text) → Option Environment
  | some line :: rest =>
    match Assignment.parse env line with
    | .blank => defineLines? env rest
    | .assignment name value =>
      match env.define? name value with
      | some env => defineLines? env rest
      | none => none
    | .malformed => some env
  | _ => some env

-- A location and those above it.
def upwards (l : Location) : List Location :=
  (List.range (l.length + 1)).map fun n => l.take (l.length - n)

def assignmentsFile? (tree : FileTree) : Option ByteArray :=
  (upwards tree.home).findSome? fun l =>
    match tree.entry? (l ++ [(".env" : Text)]) with
    | some (.file bytes) => some bytes
    | _ => none

def withFile? (env : Environment) (tree : FileTree) : Option Environment :=
  match assignmentsFile? tree with
  | none => some env
  | some bytes => env.defineLines? (lines bytes)

end Stencil.Environment
