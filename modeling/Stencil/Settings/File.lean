import Stencil.FileTree
import Stencil.Json.Reader
import Stencil.Settings.Layer
import Stencil.Settings.Source
import Stencil.Toml.Reader

/-!
Files of settings. A file is named with its extension or without; the extension tells its format. The
table of a file is its layer, and every value in it remembers the file. Only TOML and JSON are read
here: what a text in another format stands for is a parameter (`Settings.Leeway`).
-/
namespace Stencil.Settings

inductive FileFormat
  | toml
  | json
  | yaml
  | ini
  | ron
  | json5
deriving DecidableEq

namespace FileFormat

def all : List FileFormat := [toml, json, yaml, ini, ron, json5]

def extensions : FileFormat → List Text
  | toml => ["toml"]
  | json => ["json"]
  | yaml => ["yaml", "yml"]
  | ini => ["ini"]
  | ron => ["ron"]
  | json5 => ["json5"]

def ofPath? (p : Path) : Option FileFormat :=
  all.find? fun format => p.extension?.any format.extensions.contains

end FileFormat

-- What is left open about the settings. Three orders change from one run of the program to the next: that of
-- the formats when a file is named without its extension, that of the entries of a table when it is laid
-- over another one, and that of the variables. The last part is what texts stand for that are neither TOML
-- nor JSON; where nothing else is said, such a text cannot be read.
structure Leeway where
  formats : List FileFormat := FileFormat.all
  formats_perm : formats.Perm FileFormat.all := by exact .refl _
  entries : Layer → Layer := id
  entries_perm : ∀ layer, (entries layer).Perm layer := by exact .refl
  environment : Layer → Layer := id
  environment_perm : ∀ layer, (environment layer).Perm layer := by exact .refl
  parseOther? : FileFormat → (origin t : Text) → Option Value := fun _ _ _ => none

-- Everything in the order in which it is listed, and no formats but the two that are read here.
def Leeway.plain : Leeway := {}

mutual

-- A value with the entries of each table in another order. The tables in lists are never laid over others.
def Value.arrange (order : Layer → Layer) : Value → Value
  | .table origin? entries => .table origin? (order (arrangeEntries order entries))
  | v => v

def arrangeEntries (order : Layer → Layer) : Layer → Layer
  | [] => []
  | (key, v) :: entries => (key, v.arrange order) :: arrangeEntries order entries

end

-- The value of a text in a format.
def Leeway.parse? (leeway : Leeway) (format : FileFormat) (origin t : Text) : Option Value :=
  let value? := match format with
    | .toml => (Toml.parse? t).map (Value.ofToml origin)
    | .json => (Json.parse? t).map (Value.ofJson origin)
    | .yaml | .ini | .ron | .json5 => leeway.parseOther? format origin t
  value?.map (Value.arrange leeway.entries)

-- The file that a name stands for: the file of this name, or else one with an extension more.
def findFile? (leeway : Leeway) (tree : FileTree) (name : Path) : Option (Path × FileFormat) :=
  let p := tree.rooted name
  if tree.isFile p then (FileFormat.ofPath? p).map (p, ·)
  else leeway.formats.findSome? fun format => format.extensions.findSome? fun extension => do
    let p ← p.withExtension? extension
    guard (tree.isFile p)
    return (p, format)

-- The components that lead from one place to another.
def between : List Path.Component → List Path.Component → List Path.Component
  | a :: up, b :: down =>
    if a = b then between up down else List.replicate (up.length + 1) .parent ++ b :: down
  | up, down => List.replicate up.length .parent ++ down

-- How a file is reported: by its path from the working folder.
def originOf (tree : FileTree) (p : Path) : Text :=
  (Path.ofComponents (between (tree.home.map .name) (p.components.filter (· ≠ .root)))).text

-- The layer of a file. Only a file that is not required may be missing or be no text.
def fileLayer (leeway : Leeway) (tree : FileTree) (required : Bool) (name : Path) :
    Except Problem Layer :=
  let found? := do
    let (p, format) ← findFile? leeway tree name
    let t ← (tree.readText p).toOption
    return (p, format, t)
  match found? with
  | none => if required then .error .unreadable else .ok []
  | some (p, format, t) =>
    match leeway.parse? format (originOf tree p) t with
    | some (.table _ entries) => .ok entries
    | _ => .error .unreadable

end Stencil.Settings
