import Stencil.Number.Reader
import Stencil.Regex.Basic
import Stencil.Text.Alphanumeric
import Stencil.Text.Blank

/-!
Reading regular expressions. The values they stand for hold no comma, no equals sign and no closing
brace, so that a number of repetitions and whatever else takes braces cannot be written, and an opening
brace is refused. There are no tables of Unicode properties, so that `\p` names none.
-/
namespace Stencil.Regex

-- The text after blanks, and after comments from a number sign to the end of the line.
def skipBlanks (inComment : Bool) : Text → Text
  | [] => []
  | c :: t =>
    if inComment then skipBlanks (c ≠ '\n') t
    else if Text.isBlank c then skipBlanks false t
    else if c = '#' then skipBlanks true t
    else c :: t

-- In a spaced expression, blanks and comments do not count.
def skip (spaced : Bool) (t : Text) : Text :=
  if spaced then skipBlanks false t else t

-- Characters that stand for themselves after a backslash: all of ASCII but letters, digits and the
-- two angle brackets.
def isEscapable (c : Char) : Bool :=
  c.toNat < 0x80 && !c.isAlphanum && c ≠ '<' && c ≠ '>'

-- The number written with `width` hexadecimal digits, after the digits of which `n` is the value.
def hex? (spaced : Bool) : (width : Nat) → (n : Nat) → Text → Option (Nat × Text)
  | 0, n, t => some (n, t)
  | width + 1, n, t =>
    match skip spaced t with
    | [] => none
    | c :: t => do hex? spaced width (16 * n + (← Number.hexDigit? c)) t

def hexLiteral? (spaced : Bool) (width : Nat) (t : Text) : Option (Atom × Text) := do
  let (code, t) ← hex? spaced width 0 t
  guard code.isValidChar
  return (.literal (Char.ofNat code) (width = 2), t)

-- What an escape stands for, after its backslash.
def escape? (spaced : Bool) : Text → Option (Atom × Text)
  | [] => none
  | c :: t =>
    if isEscapable c then some (.literal c false, t)
    else match c with
      | 'x' => hexLiteral? spaced 2 t
      | 'u' => hexLiteral? spaced 4 t
      | 'U' => hexLiteral? spaced 8 t
      | 'd' | 's' | 'w' => some (.shorthand false, t)
      | 'D' | 'S' | 'W' => some (.shorthand true, t)
      | 'a' => some (.literal '\x07' false, t)
      | 'f' => some (.literal '\x0c' false, t)
      | 't' => some (.literal '\t' false, t)
      | 'n' => some (.literal '\n' false, t)
      | 'r' => some (.literal '\x0d' false, t)
      | 'v' => some (.literal '\x0b' false, t)
      | 'A' | 'z' => some (.edge, t)
      | 'b' | 'B' | '<' | '>' => some (.wordEdge, t)
      | _ => none

def atom? (spaced : Bool) : Text → Option (Atom × Text)
  | '\\' :: t => escape? spaced t
  | '.' :: t => some (.dot, t)
  | '^' :: t | '$' :: t => some (.edge, t)
  | c :: t => some (.literal c false, t)
  | [] => none

-- A character of a class, or an escape.
def classAtom? (spaced : Bool) : Text → Option (Atom × Text)
  | '\\' :: t => escape? spaced t
  | c :: t => some (.literal c false, t)
  | [] => none

def Atom.char? : Atom → Option Char
  | literal c _ => some c
  | _ => none

def Atom.classItem? : Atom → Option ClassItem
  | literal c _ => some (.char c)
  | shorthand negated => some (.shorthand negated)
  | _ => none

-- The first character that counts. In a spaced expression, only blanks are passed over after the
-- number sign of a comment.
def peek? (spaced : Bool) (t : Text) : Option Char :=
  if spaced then
    match t.dropWhile Text.isBlank with
    | '#' :: t => (t.dropWhile Text.isBlank).head?
    | t => t.head?
  else t.head?

-- An item of a class, or a range of them. A hyphen before a bracket or another hyphen makes none.
def classItem? (spaced : Bool) (t : Text) : Option (ClassItem × Text) := do
  let (first, t) ← classAtom? spaced t
  let t := skip spaced t
  let isRange := t.head? = some '-' && peek? spaced t.tail ≠ some ']' && peek? spaced t.tail ≠ some '-'
  if isRange then
    let (last, t) ← classAtom? spaced (skip spaced t.tail)
    let first ← first.char?
    let last ← last.char?
    guard (first ≤ last)
    return (.range first last, t)
  else return (← first.classItem?, t)

def classNames : List Text :=
  ["alnum", "alpha", "ascii", "blank", "cntrl", "digit", "graph", "lower", "print", "punct", "space",
    "upper", "word", "xdigit"]

-- Is there a circumflex in front, and what follows.
def negation (t : Text) : Bool × Text :=
  match t with
  | '^' :: t => (true, t)
  | t => (false, t)

-- A class with a name, after its opening bracket.
def named? : Text → Option (ClassItem × Text)
  | ':' :: t =>
    let (negated, t) := negation t
    match t.dropWhile (· ≠ ':') with
    | ':' :: ']' :: rest => if t.takeWhile (· ≠ ':') ∈ classNames then some (.named negated, rest) else none
    | _ => none
  | _ => none

def ClassSet.ofItems (left? : Option ClassSet) (items : List ClassItem) : ClassSet :=
  match left? with
  | none => .union items.reverse
  | some left => .operation left items.reverse

-- The items up to the closing bracket, of which some have been read. Hyphens at the start stand for
-- themselves, and so does a closing bracket in front of everything else.
def class? : (fuel : Nat) → (spaced atStart : Bool) → (left? : Option ClassSet) → (items : List ClassItem) →
    Text → Option (ClassSet × Text)
  | 0, _, _, _, _, _ => none
  | fuel + 1, spaced, atStart, left?, items, t =>
    let operation (t : Text) := class? fuel spaced false (some (.ofItems left? items)) [] t
    match skip spaced t with
    | [] => none
    | '[' :: t =>
      match named? t with
      | some (item, t) => class? fuel spaced false left? (item :: items) t
      | none => do
        let (negated, t) := negation (skip spaced t)
        let (set, t) ← class? fuel spaced true none [] t
        class? fuel spaced false left? (.nested negated set :: items) t
    | c :: t =>
      if c = '-' && atStart then class? fuel spaced true left? (.char c :: items) t
      else if c = ']' then
        if atStart && items.isEmpty then class? fuel spaced false left? [.char c] t
        else some (.ofItems left? items, t)
      else if (c = '&' || c = '-' || c = '~') && t.head? = some c then operation t.tail
      else do
        let (item, t) ← classItem? spaced (c :: t)
        class? fuel spaced false left? (item :: items) t

def Switch.ofChar? : Char → Option Switch
  | 'i' => some .ignoreCase
  | 'm' => some .multiLine
  | 's' => some .dotMatchesBreak
  | 'U' => some .lazyFirst
  | 'u' => some .unicode
  | 'R' => some .anyBreak
  | 'x' => some .spaced
  | _ => none

-- The switches to turn on, and after a hyphen the ones to turn off. No switch is named twice.
def Switches.ofText? (t : Text) : Option Switches := do
  let (on, off) ← match Text.split '-' t with
    | [on] => some (on, [])
    | [on, off] => if off = [] then none else some (on, off)
    | _ => none
  let s : Switches := ⟨← on.mapM Switch.ofChar?, ← off.mapM Switch.ofChar?⟩
  guard (s.on ++ s.off).Nodup
  return s

def isNameStart (c : Char) : Bool :=
  c = '_' || Text.isAlphabetic c

def isNamePart (c : Char) : Bool :=
  c = '_' || c = '.' || c = '[' || c = ']' || Text.isAlphanumeric c

-- What an opening parenthesis opens.
inductive Opening
  | switches (s : Switches)
  | group (name? : Option Text) (s : Switches)

namespace Opening

def plain : Opening := group none ⟨[], []⟩

-- The name of a group, after its opening angle bracket.
def named? (t : Text) : Option (Opening × Text) :=
  let name := t.takeWhile (· ≠ '>')
  match t.dropWhile (· ≠ '>') with
  | '>' :: rest =>
    if name.head?.any isNameStart && name.tail.all isNamePart then some (group (some name) ⟨[], []⟩, rest)
    else none
  | _ => none

-- Switches for a group or for what follows.
def switched? (t : Text) : Option (Opening × Text) := do
  let isInside (c : Char) := c ≠ ':' && c ≠ ')'
  let s ← Switches.ofText? (t.takeWhile isInside)
  match t.dropWhile isInside with
  | ':' :: rest => return (group none s, rest)
  | ')' :: rest => if s.on.isEmpty && s.off.isEmpty then none else return (switches s, rest)
  | _ => none

def read? : Text → Option (Opening × Text)
  | '?' :: 'P' :: '<' :: t | '?' :: '<' :: t => named? t
  | '?' :: t => switched? t
  | t => some (plain, t)

end Opening

-- Items in sequence, the last of them first.
def ofItems : List Regex → Regex
  | [] => .empty
  | [r] => r
  | rs => .sequence rs.reverse

-- The branches of a choice, the last of them first.
def ofBranches : List Regex → Regex
  | [r] => r
  | rs => .choice rs.reverse

-- Items up to the end of a group or of the text, after some branches and items that have been read.
def body? : (fuel : Nat) → (spaced : Bool) → (branches items : List Regex) → Text → Option (Regex × Text)
  | 0, _, _, _, _ => none
  | fuel + 1, spaced, branches, items, t =>
    let more (r : Regex) (t : Text) := body? fuel spaced branches (r :: items) t
    match skip spaced t with
    | [] => some (ofBranches (ofItems items :: branches), [])
    | ')' :: t => some (ofBranches (ofItems items :: branches), ')' :: t)
    | '|' :: t => body? fuel spaced (ofItems items :: branches) [] t
    | '(' :: t => do
      match ← Opening.read? (skip spaced t) with
      | (.switches s, t) => body? fuel (s.value .spaced spaced) branches (.switches s :: items) t
      | (.group name? s, t) =>
        let (r, ')' :: t) ← body? fuel (s.value .spaced spaced) [] [] t | none
        more (.group name? s r) t
    | '[' :: t => do
      let (negated, t) := negation (skip spaced t)
      let (set, t) ← class? fuel spaced true none [] t
      more (.atom (.bracket negated set)) t
    | '{' :: _ => none
    | c :: t =>
      if c = '?' || c = '*' || c = '+' then
        match items with
        | [] | .switches _ :: _ => none
        | r :: items =>
          let t := if t.head? = some '?' then t.tail else t
          body? fuel spaced branches (.repeated r :: items) t
      else do
        let (a, t) ← atom? spaced (c :: t)
        more (.atom a) t

-- How deep an expression may nest.
def depthLimit : Nat := 250

def parse? (t : Text) : Option Regex := do
  let (r, []) ← body? (t.length + 1) false [] [] t | none
  guard (r.names.Nodup && r.depth ≤ depthLimit)
  return r

end Stencil.Regex
