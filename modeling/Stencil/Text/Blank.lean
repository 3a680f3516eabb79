import Stencil.Text.Basic

/-!
Three classes of characters: the white space of ASCII, which delimits directives; the word
characters of ASCII, which variable names are made of; and the characters with the Unicode property
`White_Space`, which delimit patterns, assignments and instants.
-/
namespace Stencil.Text

-- White space of ASCII, the vertical tab included.
def isSpace (c : Char) : Bool :=
  c = ' ' || c = '\t' || c = '\n' || c = '\x0b' || c = '\x0c' || c = '\r'

-- Letters, digits and the underscore of ASCII.
def isWord (c : Char) : Bool :=
  c.isAlphanum || c = '_'

-- The Unicode property `White_Space`.
def isBlank (c : Char) : Bool :=
  let n := c.toNat
  (0x09 ≤ n && n ≤ 0x0d) || n = 0x20 || n = 0x85 || n = 0xa0 || n = 0x1680
    || (0x2000 ≤ n && n ≤ 0x200a) || n = 0x2028 || n = 0x2029 || n = 0x202f || n = 0x205f || n = 0x3000

def trimSpace : Text → Text :=
  trim isSpace

def trimBlank : Text → Text :=
  trim isBlank

end Stencil.Text
