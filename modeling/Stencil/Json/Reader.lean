import Stencil.Json.Tree
import Stencil.Number.Reader

/-!
Reading JSON text. Every call takes at least one character for two units of fuel, so twice the
length of the text is enough for any text.
-/
namespace Stencil.Json

def isSpace (c : Char) : Bool :=
  c = ' ' || c = '\t' || c = '\n' || c = '\r'

-- A part of a string: a character, or a UTF-16 unit given by its number.
inductive StringPart
  | char (c : Char)
  | unit (n : Nat)
deriving DecidableEq

namespace StringPart

def isHigh (n : Nat) : Bool :=
  0xd800 ≤ n && n < 0xdc00

def isLow (n : Nat) : Bool :=
  0xdc00 ≤ n && n < 0xe000

-- The text of the parts, with surrogates joined in pairs.
def join? : List StringPart → Option Text
  | [] => some []
  | char c :: rest => (join? rest).map (c :: ·)
  | [unit n] => if isHigh n || isLow n then none else some [Char.ofNat n]
  | unit n :: char c :: rest =>
    if isHigh n || isLow n then none else (join? rest).map fun t => Char.ofNat n :: c :: t
  | unit n :: unit m :: rest =>
    if isHigh n && isLow m then
      (join? rest).map (Char.ofNat (0x10000 + (n - 0xd800) * 0x400 + (m - 0xdc00)) :: ·)
    else if isHigh n || isLow n then none
    else (join? (unit m :: rest)).map (Char.ofNat n :: ·)

end StringPart

namespace Reader

def hexUnit? (a b c d : Char) : Option Nat := do
  return (((← Number.hexDigit? a) * 16 + (← Number.hexDigit? b)) * 16 + (← Number.hexDigit? c)) * 16 + (← Number.hexDigit? d)

-- The character that a backslash and one other character stand for.
def escape? : Char → Option Char
  | '"' => some '"'
  | '\\' => some '\\'
  | '/' => some '/'
  | 'b' => some '\x08'
  | 'f' => some '\x0c'
  | 'n' => some '\n'
  | 'r' => some '\r'
  | 't' => some '\t'
  | _ => none

-- The parts of a string up to its closing quote.
def stringParts? : Text → Option (List StringPart × Text)
  | [] => none
  | '"' :: t => some ([], t)
  | '\\' :: 'u' :: a :: b :: c :: d :: t => do
    let n ← hexUnit? a b c d
    let (parts, rest) ← stringParts? t
    return (.unit n :: parts, rest)
  | '\\' :: e :: t => do
    let c ← escape? e
    let (parts, rest) ← stringParts? t
    return (.char c :: parts, rest)
  | c :: t =>
    if c = '\\' || c.toNat < 0x20 then none
    else (stringParts? t).map fun (parts, rest) => (.char c :: parts, rest)

-- Reads a string after its opening quote.
def string? (t : Text) : Option (Option Text × Text) :=
  (stringParts? t).map fun (parts, rest) => (StringPart.join? parts, rest)

-- One or more digits.
def digits? (t : Text) : Option (Text × Text) :=
  let digits := t.takeWhile Char.isDigit
  if digits.isEmpty then none else some (digits, t.dropWhile Char.isDigit)

-- A zero, or digits that do not start with one.
def whole? (t : Text) : Option (Text × Text) := do
  let (digits, rest) ← digits? t
  guard (digits.head? ≠ some '0' || digits.length = 1)
  return (digits, rest)

def fraction? : Text → Option (Option Text × Text)
  | '.' :: t => (digits? t).map fun (digits, rest) => (some digits, rest)
  | t => some (none, t)

def exponent? : Text → Option (Option (Bool × Text) × Text)
  | c :: t =>
    if c = 'e' || c = 'E' then
      let (minus, t) := match t with
        | '-' :: t => (true, t)
        | '+' :: t => (false, t)
        | t => (false, t)
      (digits? t).map fun (digits, rest) => (some (minus, digits), rest)
    else some (none, c :: t)
  | [] => some (none, [])

def numeral? (t : Text) : Option (Numeral × Text) := do
  let (negative, t) := match t with
    | '-' :: t => (true, t)
    | t => (false, t)
  let (whole, t) ← whole? t
  let (fraction?, t) ← fraction? t
  let (exponent?, t) ← exponent? t
  return ({ negative, whole, fraction?, exponent? }, t)

mutual

def tree? : Nat → Text → Option (Tree × Text)
  | 0, _ => none
  | fuel + 1, t =>
    match t.dropWhile isSpace with
    | 'n' :: 'u' :: 'l' :: 'l' :: t => some (.null, t)
    | 't' :: 'r' :: 'u' :: 'e' :: t => some (.bool true, t)
    | 'f' :: 'a' :: 'l' :: 's' :: 'e' :: t => some (.bool false, t)
    | '"' :: t => (string? t).map fun (text?, rest) => (.string text?, rest)
    | '[' :: t =>
      match t.dropWhile isSpace with
      | ']' :: t => some (.array [], t)
      | t => (items? fuel t).map fun (items, rest) => (.array items, rest)
    | '{' :: t =>
      match t.dropWhile isSpace with
      | '}' :: t => some (.object [], t)
      | t => (members? fuel t).map fun (members, rest) => (.object members, rest)
    | t => (numeral? t).map fun (n, rest) => (.number n, rest)

-- One or more items, up to the closing bracket.
def items? : Nat → Text → Option (List Tree × Text)
  | 0, _ => none
  | fuel + 1, t => do
    let (item, t) ← tree? fuel t
    match t.dropWhile isSpace with
    | ']' :: t => return ([item], t)
    | ',' :: t =>
      let (items, t) ← items? fuel t
      return (item :: items, t)
    | _ => none

-- One or more members, up to the closing brace.
def members? : Nat → Text → Option (List (Option Text × Tree) × Text)
  | 0, _ => none
  | fuel + 1, t => do
    let '"' :: t := t.dropWhile isSpace | none
    let (key?, t) ← string? t
    let ':' :: t := t.dropWhile isSpace | none
    let (value, t) ← tree? fuel t
    match t.dropWhile isSpace with
    | '}' :: t => return ([(key?, value)], t)
    | ',' :: t =>
      let (members, t) ← members? fuel t
      return ((key?, value) :: members, t)
    | _ => none

end

end Reader

-- The tree of a text that holds one JSON value and blanks around it.
def Tree.parse? (t : Text) : Option Tree := do
  let (tree, rest) ← Reader.tree? (2 * t.length + 1) t
  guard (rest.all isSpace)
  return tree

-- The value that a text stands for.
def parse? (t : Text) : Option Json :=
  (Tree.parse? t).bind Tree.value?

end Stencil.Json
