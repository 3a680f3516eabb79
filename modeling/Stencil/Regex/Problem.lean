import Stencil.Regex.Reader

/-!
Which regular expressions can be matched. Without tables of Unicode there are no letters of other case
and no classes with a letter; without Unicode an expression must not match anything but whole characters
of ASCII; and the edges of words are those of ASCII.
-/
namespace Stencil.Regex

inductive Problem
  | malformed
  | unicodeWordEdge
deriving DecidableEq

def Problem.message : Problem → Text
  | malformed => "error building NFA"
  | unicodeWordEdge =>
    "unsupported regex feature for DFAs: cannot build DFAs for regexes with Unicode word boundaries; "
      ++ "switch to ASCII word boundaries, or heuristically enable Unicode word boundaries "
      ++ "or use a different regex engine"

def isAscii (c : Char) : Bool :=
  c.toNat < 0x80

namespace Mode

def admitsItem (m : Mode) : ClassItem → Bool
  | .char c | .range _ c => if m.isUnicode then !m.ignoresCase else isAscii c
  | .named negated => if m.isUnicode then !m.ignoresCase else !negated
  | .shorthand negated => !m.isUnicode && !negated
  | .nested negated _ => m.isUnicode || !negated

def admits (m : Mode) : Atom → Bool
  | .literal c isByte => if m.isUnicode then !m.ignoresCase else !isByte || isAscii c
  | .dot => m.isUnicode
  | .edge | .wordEdge => true
  | .shorthand negated => !m.isUnicode && !negated
  | .bracket negated set => (m.isUnicode || !negated) && set.items.all m.admitsItem

end Mode

def hasUnicodeWordEdge (r : Regex) : Bool :=
  r.atoms.any fun
    | (m, .wordEdge) => m.isUnicode
    | _ => false

-- The problem of a text as a regular expression, if it has one.
def problem? (t : Text) : Option Problem :=
  match parse? t with
  | none => some .malformed
  | some r =>
    if !r.atoms.all fun (m, a) => m.admits a then some .malformed
    else if r.hasUnicodeWordEdge then some .unicodeWordEdge
    else none

end Stencil.Regex
