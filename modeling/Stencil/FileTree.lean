import Stencil.Path
import Stencil.Text.Utf8

/-!
A file tree is a finite collection of files and folders together with a working folder, from which
relative paths start. Looking at a path walks the tree part by part, and the walk can fail in the
ways listed in `FileTree.Failure`.
-/
namespace Stencil

-- The names on the way from the root of the tree.
abbrev Location := List Text

-- A file that may not be read is written down as one that is no UTF-8: it is there, and to read it fails in a way
-- other than `Failure.missing`. There are no links; a file or a folder stands in every place that leads to it.
inductive FileTree.Entry
  | file (bytes : ByteArray)
  | folder

structure FileTree where
  home : Location
  entries : List (Location × FileTree.Entry)

namespace FileTree

inductive Failure
  | missing
  | notFolder
  | folder
  | nameTooLong
  | nulInName
  | notUtf8
deriving DecidableEq

def Failure.message : Failure → Text
  | missing => "No such file or directory (os error 2)"
  | notFolder => "Not a directory (os error 20)"
  | folder => "Is a directory (os error 21)"
  | nameTooLong => "File name too long (os error 36)"
  | nulInName => "file name contained an unexpected NUL byte"
  | notUtf8 => "stream did not contain valid UTF-8"

-- The longest name of a file, in bytes.
def maxName : Nat := 255

-- A path has to be shorter than this, in bytes.
def pathLimit : Nat := 4096

-- The tree with nothing but its working folder.
def empty (home : Location) : FileTree where
  home
  entries := (List.range home.length).map fun n => (home.take (n + 1), .folder)

def entry? (tree : FileTree) (l : Location) : Option Entry :=
  if l = [] then some .folder else (tree.entries.find? fun e => e.1 = l).map Prod.snd

def isFolderAt (tree : FileTree) (l : Location) : Bool :=
  match tree.entry? l with
  | some .folder => true
  | _ => false

-- Walks from a location along the parts of a path.
def walk (tree : FileTree) (l : Location) : List Text → Except Failure Location
  | [] => .ok l
  | part :: parts =>
    if !tree.isFolderAt l then .error .notFolder
    else if part = ['.'] then tree.walk l parts
    else if part = ['.', '.'] then tree.walk l.dropLast parts
    else if maxName < part.byteLength then .error .nameTooLong
    else if (tree.entry? (l ++ [part])).isNone then .error .missing
    else tree.walk (l ++ [part]) parts

-- The parts of a path that are not empty.
def parts (p : Path) : List Text :=
  (Text.split '/' p.text).filter (· ≠ [])

def start (tree : FileTree) (p : Path) : Location :=
  if p.isRooted then [] else tree.home

-- Where a path leads to. A path that ends in a slash has to lead to a folder.
def locate (tree : FileTree) (p : Path) : Except Failure Location :=
  if '\x00' ∈ p.text then .error .nulInName
  else if p.text = [] then .error .missing
  else if pathLimit ≤ p.text.byteLength then .error .nameTooLong
  else do
    let l ← tree.walk (tree.start p) (parts p)
    if p.text.getLast? = some '/' && !tree.isFolderAt l then .error .notFolder
    else .ok l

def read (tree : FileTree) (p : Path) : Except Failure ByteArray := do
  match tree.entry? (← tree.locate p) with
  | some (.file bytes) => .ok bytes
  | some .folder => .error .folder
  | none => .error .missing

def readText (tree : FileTree) (p : Path) : Except Failure Text := do
  match Text.ofUtf8? (← tree.read p) with
  | some text => .ok text
  | none => .error .notUtf8

-- Does the path lead to a file? A walk that fails leads to none.
def isFile (tree : FileTree) (p : Path) : Bool :=
  match tree.read p with
  | .ok _ => true
  | .error _ => false

-- A path from the root of the tree.
def rooted (tree : FileTree) (p : Path) : Path :=
  Path.push ⟨'/' :: List.intercalate ['/'] tree.home⟩ p.text

-- Sets what is at a location.
def put (tree : FileTree) (l : Location) (entry : Entry) : FileTree :=
  { tree with entries := (l, entry) :: tree.entries.filter (·.1 ≠ l) }

-- Makes the folders on the way from a location, part by part, until something is in the way. Gives
-- also where the way ends, if it gets there.
def makeFolders (tree : FileTree) (l : Location) : List Text → FileTree × Option Location
  | [] => (tree, some l)
  | part :: parts =>
    match tree.walk l [part] with
    | .ok next => if tree.isFolderAt next then tree.makeFolders next parts else (tree, none)
    | .error .missing => (tree.put (l ++ [part]) .folder).makeFolders (l ++ [part]) parts
    | .error _ => (tree, none)

-- Can a file be made with this name in a folder?
def canHold (tree : FileTree) (l : Location) (name : Text) : Bool :=
  name ≠ [] && name ≠ ['.'] && name ≠ ['.', '.'] && name.byteLength ≤ maxName
    && !tree.isFolderAt (l ++ [name])

-- Writes an entry and the folders on the way to it, as far as that is possible.
def write (tree : FileTree) (p : Path) (entry : Entry) : FileTree :=
  let names := (parts p).filter (· ≠ ['.'])
  if '\x00' ∈ p.text || pathLimit ≤ p.text.byteLength then tree
  else match entry with
    | .folder => (tree.makeFolders (tree.start p) names).1
    | .file bytes =>
      match tree.makeFolders (tree.start p) names.dropLast, (Text.split '/' p.text).getLast? with
      | (tree, some l), some name => if tree.canHold l name then tree.put (l ++ [name]) (.file bytes) else tree
      | (tree, _), _ => tree

-- Removes the file that a path leads to, if it leads to one.
def remove (tree : FileTree) (p : Path) : FileTree :=
  match tree.locate p with
  | .ok l => if tree.isFolderAt l then tree else { tree with entries := tree.entries.filter (·.1 ≠ l) }
  | .error _ => tree

end FileTree
end Stencil
