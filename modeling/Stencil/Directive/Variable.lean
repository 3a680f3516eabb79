import Stencil.Directive.Inclusion

/-!
The directive `## @name|default ##` stands for the value bound to a name, or for its default. With
`e@` in place of `@` the value is escaped. A directive is kept as its parts; `Variable.raw` writes it
out again, and `Variable.WellFormed` says which parts make one.
-/
namespace Stencil.Directive

open Text

structure Variable where
  -- The one white space character after the first marker.
  gap : Char
  escaped : Bool
  -- The name with the white space around it.
  label : Text
  -- The text after the bar, with the white space around it.
  alternative? : Option Text
deriving DecidableEq

namespace Variable

def isLabel (c : Char) : Bool :=
  isWord c || isSpace c

-- The bar and what follows it, when there is one.
def bar : Option Text → Text
  | none => []
  | some alternative => '|' :: alternative

def raw (v : Variable) : Text :=
  marker ++ [v.gap] ++ (if v.escaped then ['e', '@'] else ['@']) ++ v.label ++ bar v.alternative? ++ marker

-- The name to look up.
def name (v : Variable) : Text :=
  trimSpace v.label

-- What an unbound name stands for.
def fallback (v : Variable) : Text :=
  trimSpace (v.alternative?.getD [])

-- The first marker after the bar is the one that ends the directive.
structure WellFormed (v : Variable) : Prop where
  gap : isSpace v.gap
  label_ne_nil : v.label ≠ []
  label : ∀ c ∈ v.label, isLabel c
  alternative_bar : ∀ f ∈ v.alternative?, '|' ∉ f
  alternative_marker : ∀ f ∈ v.alternative?, ¬ marker <:+: f ++ ['#']

-- The text before the first marker, which no bar comes before, and the text from the marker on.
def alternativeAt? : Text → Option (Text × Text)
  | '#' :: '#' :: t => some ([], '#' :: '#' :: t)
  | [] => none
  | c :: t => if c = '|' then none else (alternativeAt? t).map fun (f, rest) => (c :: f, rest)

-- The directive that stands at the start of the text.
def atStart? (t : Text) : Option Variable := do
  let gap :: t ← marker.isPrefixOf? t | none
  guard (isSpace gap)
  let escaped := t.head? = some 'e'
  let '@' :: t := if escaped then t.tail else t | none
  let label := t.takeWhile isLabel
  guard (label ≠ [])
  match t.dropWhile isLabel with
  | '|' :: t =>
    let (alternative, _) ← alternativeAt? t
    return { gap, escaped, label, alternative? := some alternative }
  | t =>
    let _ ← marker.isPrefixOf? t
    return { gap, escaped, label, alternative? := none }

def recogniser : Recogniser Variable where
  atStart? := atStart?
  raw := raw

-- The variables of a text with their offsets, from left to right.
def occurrences (t : Text) : List (Occurrence Variable) :=
  recogniser.occurrences t

-- The variables of a text, of those that read alike only the first.
def distinct (t : Text) : List Variable :=
  distinctBy raw (recogniser.items t)

end Variable
end Stencil.Directive
