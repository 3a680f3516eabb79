import Stencil.Json.Basic

/-!
The compact text of a JSON value: no blanks, and in strings only the quote, the backslash and the
control characters are escaped.
-/
namespace Stencil.Json

def hexDigit (n : Nat) : Char :=
  Nat.digitChar (n % 16)

-- A character as it stands inside quotes.
def escapeChar (c : Char) : Text :=
  if c = '"' then ['\\', '"']
  else if c = '\\' then ['\\', '\\']
  else if c = '\x08' then ['\\', 'b']
  else if c = '\t' then ['\\', 't']
  else if c = '\n' then ['\\', 'n']
  else if c = '\x0c' then ['\\', 'f']
  else if c = '\r' then ['\\', 'r']
  else if c.toNat < 0x20 then ['\\', 'u', '0', '0', hexDigit (c.toNat / 16), hexDigit c.toNat]
  else [c]

def quote (t : Text) : Text :=
  '"' :: t.flatMap escapeChar ++ ['"']

mutual

def print : Json → Text
  | null => "null"
  | bool true => "true"
  | bool false => "false"
  | number n => n.text
  | string t => quote t
  | array items => '[' :: printItems items ++ [']']
  | object members => '{' :: printMembers members ++ ['}']

def printItems : List Json → Text
  | [] => []
  | [item] => print item
  | item :: items => print item ++ ',' :: printItems items

def printMembers : List (Text × Json) → Text
  | [] => []
  | [(key, value)] => quote key ++ ':' :: print value
  | (key, value) :: members => quote key ++ ':' :: print value ++ ',' :: printMembers members

end

end Stencil.Json
