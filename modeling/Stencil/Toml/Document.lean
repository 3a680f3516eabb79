import Stencil.Toml.Basic

/-!
A document is a list of statements, and a statement adds to the tables that the earlier ones made. A
table is made in one of three ways, which decide what may still be added to it.
-/
namespace Stencil.Toml

-- How a table came to be.
inductive Making
  -- By its own header, or as the root.
  | header
  -- By the header of a table below it.
  | passing
  -- By a dotted key.
  | dotted
deriving DecidableEq

-- What a key of a table under construction holds.
inductive Node
  | value (v : Toml)
  | table (making : Making) (entries : List (Text × Node))
  -- The tables of repeated headers, the last of them first.
  | tables (elements : List Node)

-- One statement of a document. A path is the keys between dots.
inductive Statement
  | header (path : List Text)
  | element (path : List Text)
  | assign (path : List Text) (v : Toml)

namespace Node

def root : Node := .table .header []

-- Sets the node of a key in place, or adds it at the end.
def setEntry (key : Text) (n : Node) : List (Text × Node) → List (Text × Node)
  | [] => [(key, n)]
  | (k, old) :: rest => if k = key then (key, n) :: rest else (k, old) :: setEntry key n rest

-- Changes the last of repeated tables, and any other node itself.
def changeLast (f : Node → Option Node) : Node → Option Node
  | tables (last :: earlier) => (f last).map fun last => tables (last :: earlier)
  | tables [] => none
  | n => f n

-- Changes the table at the end of a path. Missing tables on the way are made as `making` says. A
-- dotted key does not lead into a table that has a header.
def change (making : Making) (f : Node → Option Node) :
    List Text → Node → Option Node
  | [], n => f n
  | key :: path, .table own entries => do
    let child := (entries.lookup key).getD (.table making [])
    let child ← match child with
      | .value _ => none
      | .table childMaking _ =>
        if making = .dotted && childMaking = .header then none else change making f path child
      | .tables _ => changeLast (change making f path) child
    return .table own (setEntry key child entries)
  | _ :: _, _ => none

-- Gives a key of a table its own header. A table that was only on the way so far moves to the end.
def openTable (key : Text) : Node → Option Node
  | .table own entries =>
    match entries.lookup key with
    | none => some (.table own (setEntry key (.table .header []) entries))
    | some (.table .passing below) =>
      some (.table own (entries.filter (·.1 ≠ key) ++ [(key, .table .header below)]))
    | some _ => none
  | _ => none

-- Adds a table to the repeated ones of a key.
def openElement (key : Text) : Node → Option Node
  | .table own entries =>
    match entries.lookup key with
    | none => some (.table own (setEntry key (.tables [.table .header []]) entries))
    | some (.tables elements) =>
      some (.table own (setEntry key (.tables (.table .header [] :: elements)) entries))
    | some _ => none
  | _ => none

-- Gives a new key of a table its value. After other keys the table has to come from dotted keys.
def addValue (dotted : Bool) (key : Text) (v : Toml) : Node → Option Node
  | .table own entries =>
    if (dotted && own ≠ .dotted) || (entries.lookup key).isSome then none
    else some (.table own (entries ++ [(key, .value v)]))
  | _ => none

-- The keys before the last one, and the last one.
def splitPath (path : List Text) : Option (List Text × Text) :=
  path.getLast?.map fun key => (path.dropLast, key)

-- Assigns a value to a key, or to a key of tables below, of one table.
def assign (path : List Text) (v : Toml) (n : Node) : Option Node := do
  let (above, key) ← splitPath path
  change .dotted (addValue (!above.isEmpty) key v) above n

mutual

def toToml : Node → Toml
  | value v => v
  | table _ entries => .table (entriesToToml entries)
  | tables elements => .array (elementsToToml elements).reverse

def entriesToToml : List (Text × Node) → List (Text × Toml)
  | [] => []
  | (key, n) :: rest => (key, toToml n) :: entriesToToml rest

def elementsToToml : List Node → List Toml
  | [] => []
  | n :: rest => toToml n :: elementsToToml rest

end
end Node

-- The table of some assignments to keys.
def ofPairs? (pairs : List (List Text × Toml)) : Option Toml :=
  (pairs.foldlM (fun (n : Node) (path, v) => n.assign path v) Node.root).map Node.toToml

-- The root table and the path of the last header.
structure Draft where
  root : Node
  current : List Text

def Draft.add? (d : Draft) : Statement → Option Draft
  | .header path => do
    let (above, key) ← Node.splitPath path
    return ⟨← d.root.change .passing (Node.openTable key) above, path⟩
  | .element path => do
    let (above, key) ← Node.splitPath path
    return ⟨← d.root.change .passing (Node.openElement key) above, path⟩
  | .assign path v => do
    return ⟨← d.root.change .passing (Node.assign path v) d.current, d.current⟩

-- The value of a document, unless a statement does not fit the earlier ones.
def ofStatements? (statements : List Statement) : Option Toml :=
  (statements.foldlM Draft.add? ⟨.root, []⟩).map fun d => d.root.toToml

end Stencil.Toml
