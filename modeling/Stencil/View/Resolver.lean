import Stencil.Path

/-!
Views are named by dotted names: below the root `views` and with the extension `html`, the name
`layout.header` stands for `views/layout/header.html`.
-/
namespace Stencil.View

structure Resolver where
  root : Path
  -- Written after the last dot; when it is empty there is no such dot.
  extension : Text
deriving DecidableEq

namespace Resolver

-- Dots before the extension are dropped.
def ofSettings (root : Path) (extension : Text) : Resolver where
  root
  extension := extension.dropWhile (· = '.')

-- A part of a name without the slashes that would lead back to the root of the file tree.
def segment (part : Text) : Text :=
  part.dropWhile fun c => c = '/' || c = '\\'

def fileName (r : Resolver) (segment : Text) : Text :=
  if r.extension = [] then segment else segment ++ '.' :: r.extension

-- The segments with the last one turned into a file name.
def withFileName (r : Resolver) : List Text → List Text
  | [] => []
  | [last] => [r.fileName last]
  | s :: rest => s :: r.withFileName rest

def segments (r : Resolver) (name : Text) : List Text :=
  r.withFileName ((Text.split '.' name).map segment)

def resolve (r : Resolver) (name : Text) : Path :=
  (r.segments name).foldl Path.push r.root

end Resolver
end Stencil.View
