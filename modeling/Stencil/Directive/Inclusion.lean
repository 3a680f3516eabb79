import Stencil.Text.Blank
import Stencil.Text.Segment

/-!
The directive `## include('target') ##` asks for another view in its place. A directive is kept as
its parts; `Inclusion.raw` writes it out again, and `Inclusion.WellFormed` says which parts make one.
-/
namespace Stencil.Directive

open Text

-- Every directive starts and ends with two number signs.
def marker : Text := "##"

structure Inclusion where
  -- White space after the first marker.
  before : Text
  -- Dotted name of the view to include.
  target : Text
  -- White space before the last marker.
  after : Text
deriving DecidableEq

namespace Inclusion

def opening : Text := "include('"

def closing : Text := "')"

-- A target goes on until a quote or white space.
def isTarget (c : Char) : Bool :=
  c ≠ '\'' && !isSpace c

def raw (d : Inclusion) : Text :=
  marker ++ d.before ++ opening ++ d.target ++ closing ++ d.after ++ marker

structure WellFormed (d : Inclusion) : Prop where
  before : ∀ c ∈ d.before, isSpace c
  target_ne_nil : d.target ≠ []
  target : ∀ c ∈ d.target, isTarget c
  after : ∀ c ∈ d.after, isSpace c

-- The directive that stands at the start of the text.
def atStart? (t : Text) : Option Inclusion := do
  let t ← marker.isPrefixOf? t
  let before := t.takeWhile isSpace
  let t ← opening.isPrefixOf? (t.dropWhile isSpace)
  let target := t.takeWhile isTarget
  guard (target ≠ [])
  let t ← closing.isPrefixOf? (t.dropWhile isTarget)
  let after := t.takeWhile isSpace
  let _ ← marker.isPrefixOf? (t.dropWhile isSpace)
  return { before, target, after }

def recogniser : Recogniser Inclusion where
  atStart? := atStart?
  raw := raw

-- The inclusions of a text with their offsets, from left to right.
def occurrences (t : Text) : List (Occurrence Inclusion) :=
  recogniser.occurrences t

-- The inclusions of a text, of those that read alike only the first.
def distinct (t : Text) : List Inclusion :=
  distinctBy raw (recogniser.items t)

end Inclusion
end Stencil.Directive
