import Stencil.Toml.Document
import Stencil.Toml.Moment
import Stencil.Toml.Numeral
import Stencil.Toml.Quoted
import Stencil.Toml.Reserved

/-!
Reading a TOML document: values, the paths before them, and one statement a line. Every call takes at
least one character for two units of fuel.
-/
namespace Stencil.Toml

namespace Reader

-- How many keys a path may not reach, and how deep arrays and inline tables may not nest.
def depthLimit : Nat := 80

def skipGap (t : Text) : Text :=
  t.dropWhile isGap

-- The text after blanks, line breaks and comments.
def skipComments (inComment : Bool) : Text → Text
  | [] => []
  | '\r' :: '\n' :: t => skipComments false t
  | '\n' :: t => skipComments false t
  | c :: t =>
    if inComment then (if isVisible c then skipComments true t else c :: t)
    else if isGap c then skipComments false t
    else if c = '#' then skipComments true t
    else c :: t

-- The text after a comment or none at the end of a line, and after the line.
def lineEnd? (t : Text) : Option Text :=
  let t := skipGap t
  let t := if t.head? = some '#' then t.dropWhile isVisible else t
  if t = [] then some [] else break? t

def isBare (c : Char) : Bool :=
  c.isAlphanum || c = '_' || c = '-'

def key? (t : Text) : Option (Text × Text) :=
  match t with
  | '"' :: t => basic? (t.length + 1) t
  | '\'' :: t => literal? t
  | t => if t.head?.any isBare then some (t.takeWhile isBare, t.dropWhile isBare) else none

-- Keys between dots, with blanks around them.
def keys? : (fuel : Nat) → Text → Option (List Text × Text)
  | 0, _ => none
  | fuel + 1, t => do
    let (key, t) ← key? (skipGap t)
    match skipGap t with
    | '.' :: t =>
      let (path, rest) ← keys? fuel t
      return (key :: path, rest)
    | t => return ([key], t)

def path? (t : Text) : Option (List Text × Text) := do
  let (path, rest) ← keys? (t.length + 1) t
  guard (path.length < depthLimit)
  return (path, rest)

mutual

-- A value in which arrays and inline tables nest at most `depth` deep.
def value? : (fuel depth : Nat) → Text → Option (Toml × Text)
  | 0, _, _ => none
  | fuel + 1, depth, t =>
    match t, depth with
    | 't' :: 'r' :: 'u' :: 'e' :: t, _ => some (.bool true, t)
    | 'f' :: 'a' :: 'l' :: 's' :: 'e' :: t, _ => some (.bool false, t)
    | '[' :: _, 0 => none
    | '[' :: t, depth + 1 => (items? fuel depth t).map fun (items, rest) => (.array items, rest)
    | '{' :: _, 0 => none
    | '{' :: t, depth + 1 => do
      let (pairs, rest) ← match skipGap t with
        | '}' :: t => some ([], t)
        | t => pairs? fuel depth t
      return (← ofPairs? pairs, rest)
    | t, _ =>
      if t.head?.any fun c => c = '"' || c = '\'' then (quoted? t).map fun (t, rest) => (.text t, rest)
      else match Moment.read? t with
        | some (t, rest) => some (.moment t, rest)
        | none => Numeral.read? t

-- Items up to the closing bracket, the last of them with a comma or without.
def items? : (fuel depth : Nat) → Text → Option (List Toml × Text)
  | 0, _, _ => none
  | fuel + 1, depth, t =>
    match skipComments false t with
    | ']' :: t => some ([], t)
    | t => do
      let (item, t) ← value? fuel depth t
      match skipComments false t with
      | ']' :: t => return ([item], t)
      | ',' :: t =>
        let (items, t) ← items? fuel depth t
        return (item :: items, t)
      | _ => none

-- One or more pairs up to the closing brace.
def pairs? : (fuel depth : Nat) → Text → Option (List (List Text × Toml) × Text)
  | 0, _, _ => none
  | fuel + 1, depth, t => do
    let (path, '=' :: t) ← path? t | none
    let (v, t) ← value? fuel depth (skipGap t)
    match skipGap t with
    | '}' :: t => return ([(path, v)], t)
    | ',' :: t =>
      let (pairs, t) ← pairs? fuel depth t
      return ((path, v) :: pairs, t)
    | _ => none

end

-- A statement on its line, with the lines after it.
def statement? (t : Text) : Option (Statement × Text) :=
  match t with
  | '[' :: '[' :: t => do
    let (path, ']' :: ']' :: t) ← path? t | none
    return (.element path, ← lineEnd? t)
  | '[' :: t => do
    let (path, ']' :: t) ← path? t | none
    return (.header path, ← lineEnd? t)
  | t => do
    let (path, '=' :: t) ← path? t | none
    let t := skipGap t
    let (v, t) ← value? (2 * t.length + 1) (depthLimit - 1) t
    return (.assign path v, ← lineEnd? t)

def statements? : (fuel : Nat) → Text → Option (List Statement)
  | 0, _ => none
  | fuel + 1, t =>
    match skipComments false t with
    | [] => some []
    | t => do
      let (statement, t) ← statement? t
      return statement :: (← statements? fuel t)

end Reader

-- The value of a document, which may start with a byte order mark.
def parse? (t : Text) : Option Toml := do
  let t := if t.head? = some '\ufeff' then t.tail else t
  let document ← ofStatements? (← Reader.statements? (t.length + 1) t)
  document.withMoments?

end Stencil.Toml
