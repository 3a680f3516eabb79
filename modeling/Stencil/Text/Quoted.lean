import Stencil.Text.Basic
import Stencil.Text.Hidden

/-!
Texts in quotes for people to read: what shows nothing is written as an escape.
-/
namespace Stencil.Text

def showChar (c : Char) : Text :=
  if c = '"' then ['\\', '"']
  else if c = '\\' then ['\\', '\\']
  else if c = '\t' then ['\\', 't']
  else if c = '\n' then ['\\', 'n']
  else if c = '\r' then ['\\', 'r']
  else if c = '\x00' then ['\\', '0']
  else if isHidden c then
    ['\\', 'u', '\x7b'] ++ Nat.toDigits 16 c.toNat ++ ['\x7d']
  else [c]

def quoted (t : Text) : Text :=
  '"' :: t.flatMap showChar ++ ['"']

end Stencil.Text
