import Stencil.Number.Reader
import Stencil.Toml.Basic

/-!
Texts in quotes. Between double quotes a backslash starts an escape, between single quotes every
character stands for itself, and three quotes of either kind enclose several lines. Each reader
starts after the opening quotes; its fuel is the length of the text.
-/
namespace Stencil.Toml.Reader

-- The character with a code of `width` hexadecimal digits.
def codePoint? (width : Nat) (t : Text) : Option (Char × Text) := do
  let digits ← (t.take width).mapM Number.hexDigit?
  let code := digits.foldl (fun n d => 16 * n + d) 0
  guard (digits.length = width && code.isValidChar)
  return (Char.ofNat code, t.drop width)

-- The character that an escape stands for, after its backslash.
def escape? : Text → Option (Char × Text)
  | '"' :: t => some ('"', t)
  | '\\' :: t => some ('\\', t)
  | 'b' :: t => some ('\x08', t)
  | 't' :: t => some ('\t', t)
  | 'n' :: t => some ('\n', t)
  | 'f' :: t => some ('\x0c', t)
  | 'r' :: t => some ('\r', t)
  | 'u' :: t => codePoint? 4 t
  | 'U' :: t => codePoint? 8 t
  | _ => none

-- Adds characters in front of what was read.
def prepend (front : Text) : Option (Text × Text) → Option (Text × Text) :=
  Option.map fun (t, rest) => (front ++ t, rest)

def basic? : (fuel : Nat) → Text → Option (Text × Text)
  | 0, _ | _, [] => none
  | fuel + 1, c :: t =>
    if c = '"' then some ([], t)
    else if c = '\\' then do
      let (c, t) ← escape? t
      prepend [c] (basic? fuel t)
    else if isVisible c then prepend [c] (basic? fuel t)
    else none

def literal? (t : Text) : Option (Text × Text) :=
  let isPlain (c : Char) := isVisible c && c ≠ '\''
  match t.dropWhile isPlain with
  | '\'' :: rest => some (t.takeWhile isPlain, rest)
  | _ => none

-- The three quotes that end a text; up to two more before them still belong to it.
def closing? (quote : Char) (t : Text) : Option (Text × Text) :=
  let run := (t.takeWhile (· = quote)).length
  if run < 3 then none
  else
    let more := min (run - 3) 2
    some (List.replicate more quote, t.drop (more + 3))

-- A line break, with what follows it.
def break? : Text → Option Text
  | '\n' :: t => some t
  | '\r' :: '\n' :: t => some t
  | _ => none

-- The text after blanks and line breaks.
def skipLines : Text → Text
  | '\r' :: '\n' :: t => skipLines t
  | c :: t => if isGap c || c = '\n' then skipLines t else c :: t
  | [] => []

def basicLines? : (fuel : Nat) → Text → Option (Text × Text)
  | 0, _ => none
  | fuel + 1, t =>
    match closing? '"' t, break? t, t with
    | some found, _, _ => some found
    | none, some t, _ => prepend ['\n'] (basicLines? fuel t)
    | none, none, '\\' :: t =>
      match break? (t.dropWhile isGap) with
      | some t => basicLines? fuel (skipLines t)
      | none => do
        let (c, t) ← escape? t
        prepend [c] (basicLines? fuel t)
    | none, none, c :: t => if isVisible c then prepend [c] (basicLines? fuel t) else none
    | none, none, [] => none

def literalLines? : (fuel : Nat) → Text → Option (Text × Text)
  | 0, _ => none
  | fuel + 1, t =>
    match closing? '\'' t, break? t, t with
    | some found, _, _ => some found
    | none, some t, _ => prepend ['\n'] (literalLines? fuel t)
    | none, none, c :: t => if isVisible c then prepend [c] (literalLines? fuel t) else none
    | none, none, [] => none

-- A text of several lines may start with a break that does not count.
def withoutBreak (t : Text) : Text :=
  (break? t).getD t

-- A text with its quotes.
def quoted? : Text → Option (Text × Text)
  | '"' :: '"' :: '"' :: t => basicLines? (t.length + 1) (withoutBreak t)
  | '\'' :: '\'' :: '\'' :: t => literalLines? (t.length + 1) (withoutBreak t)
  | '"' :: t => basic? (t.length + 1) t
  | '\'' :: t => literal? t
  | _ => none

end Stencil.Toml.Reader
