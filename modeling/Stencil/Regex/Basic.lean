import Stencil.Text.Basic

/-!
Regular expressions as far as values of log fields are matched with them. Only the form is kept: what
an expression is made of, how deep it nests, and under which switches each of its atoms stands.
-/
namespace Stencil

-- The switches that can be turned on and off inside of an expression.
inductive Regex.Switch
  | ignoreCase
  | multiLine
  | dotMatchesBreak
  | lazyFirst
  | unicode
  | anyBreak
  | spaced
deriving DecidableEq

structure Regex.Switches where
  on : List Regex.Switch
  off : List Regex.Switch

-- What a switch is afterwards, when it was `before`.
def Regex.Switches.value (s : Regex.Switches) (switch : Regex.Switch) (before : Bool) : Bool :=
  if switch ∈ s.on then true else if switch ∈ s.off then false else before

mutual

-- An item between square brackets.
inductive Regex.ClassItem
  | char (c : Char)
  | range (first last : Char)
  -- A class with a name, as in `[:alpha:]`.
  | named (negated : Bool)
  -- A class with a letter, as in `\d`.
  | shorthand (negated : Bool)
  | nested (negated : Bool) (set : Regex.ClassSet)

-- The items between square brackets. An operation relates all items before it to those after it.
inductive Regex.ClassSet
  | union (items : List Regex.ClassItem)
  | operation (left : Regex.ClassSet) (right : List Regex.ClassItem)

end

inductive Regex.Atom
  -- A character, which may be written as one byte.
  | literal (c : Char) (isByte : Bool)
  | dot
  -- The start or the end of the text or of a line.
  | edge
  -- The start or the end of a word, or a place that is neither.
  | wordEdge
  | shorthand (negated : Bool)
  | bracket (negated : Bool) (set : Regex.ClassSet)

inductive Regex
  | empty
  -- Turns switches for the rest of the group.
  | switches (s : Regex.Switches)
  | atom (a : Regex.Atom)
  | repeated (r : Regex)
  | group (name? : Option Text) (s : Regex.Switches) (r : Regex)
  | sequence (rs : List Regex)
  | choice (rs : List Regex)

namespace Regex

mutual

def ClassItem.depth : ClassItem → Nat
  | .nested _ set => set.depth + 1
  | _ => 0

def ClassSet.depth : ClassSet → Nat
  | .union items => itemsDepth items
  | .operation left right => max left.depth (itemsDepth right) + 1

-- One item stands for itself, several of them for their union.
def itemsDepth : List ClassItem → Nat
  | [] => 0
  | [item] => item.depth
  | item :: rest => max item.depth (deepestItem rest) + 1

def deepestItem : List ClassItem → Nat
  | [] => 0
  | item :: rest => max item.depth (deepestItem rest)

end

mutual

-- The items of a set, with those of the sets inside it.
def ClassSet.items : ClassSet → List ClassItem
  | .union items => withInner items
  | .operation left right => left.items ++ withInner right

def withInner : List ClassItem → List ClassItem
  | [] => []
  | item :: rest => item :: item.inner ++ withInner rest

def ClassItem.inner : ClassItem → List ClassItem
  | .nested _ set => set.items
  | _ => []

end

def Atom.depth : Atom → Nat
  | bracket _ set => set.depth + 1
  | _ => 0

mutual

def depth : Regex → Nat
  | empty | switches _ => 0
  | atom a => a.depth
  | repeated r | group _ _ r => r.depth + 1
  | sequence rs | choice rs => deepest rs + 1

def deepest : List Regex → Nat
  | [] => 0
  | r :: rs => max r.depth (deepest rs)

end

mutual

-- The names of the groups.
def names : Regex → List Text
  | empty | switches _ | atom _ => []
  | repeated r => r.names
  | group name? _ r => name?.toList ++ r.names
  | sequence rs | choice rs => allNames rs

def allNames : List Regex → List Text
  | [] => []
  | r :: rs => r.names ++ allNames rs

end

-- The switches that decide which atoms are available.
structure Mode where
  ignoresCase : Bool
  isUnicode : Bool

def Mode.start : Mode := ⟨false, true⟩

def Mode.turn (m : Mode) (s : Switches) : Mode where
  ignoresCase := s.value .ignoreCase m.ignoresCase
  isUnicode := s.value .unicode m.isUnicode

mutual

-- The atoms, each with the mode it stands in, and the mode after the last of them. Switches hold to
-- the end of the group they stand in.
def scan (m : Mode) : Regex → List (Mode × Atom) × Mode
  | empty => ([], m)
  | switches s => ([], m.turn s)
  | atom a => ([(m, a)], m)
  | repeated r => r.scan m
  | group _ s r => ((r.scan (m.turn s)).1, m)
  | sequence rs | choice rs => scanAll m rs

def scanAll (m : Mode) : List Regex → List (Mode × Atom) × Mode
  | [] => ([], m)
  | r :: rs =>
    let (atoms, m) := r.scan m
    let (more, m) := scanAll m rs
    (atoms ++ more, m)

end

def atoms (r : Regex) : List (Mode × Atom) :=
  (r.scan .start).1

end Regex
end Stencil
