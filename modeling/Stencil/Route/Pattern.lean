import Stencil.Route.Error
import Stencil.Text.Blank

/-!
Patterns such as `/users/{id}`: fixed segments and placeholders between slashes. Empty segments mean
nothing.
-/
namespace Stencil.Route

inductive Segment
  | fixed (text : Text)
  | placeholder (name : Text)
deriving DecidableEq

namespace Segment

def isBrace (c : Char) : Bool :=
  c = '{' || c = '}'

-- A name in braces is a placeholder; braces have no other use.
def parse (t : Text) : Except Error Segment :=
  if !t.any isBrace then .ok (.fixed t)
  else
    let name := (t.drop 1).dropLast
    if t.head? = some '{' && (t.drop 1).getLast? = some '}' && name ≠ [] && !name.any isBrace then
      .ok (.placeholder name)
    else .error (.badPlaceholder t)

def text : Segment → Text
  | fixed t => t
  | placeholder name => '{' :: name ++ ['}']

def fixed? : Segment → Option Text
  | fixed t => some t
  | placeholder _ => none

def placeholder? : Segment → Option Text
  | fixed _ => none
  | placeholder name => some name

-- The segments of a text, up to the first that is not one.
def parseAll : List Text → Except Error (List Segment)
  | [] => .ok []
  | t :: rest =>
    match parse t with
    | .error e => .error e
    | .ok s => (parseAll rest).map (s :: ·)

end Segment

-- A pattern without the blanks around it and with a slash in front. Blanks inside are refused.
def normalize (pattern : Text) : Except Error Text :=
  let trimmed := Text.trimBlank pattern
  if trimmed.any Text.isBlank then .error (.blankInPattern pattern)
  else if trimmed.head? = some '/' then .ok trimmed
  else .ok ('/' :: trimmed)

-- The texts between slashes, except for empty ones.
def slices (t : Text) : List Text :=
  (Text.split '/' t).filter (· ≠ [])

end Stencil.Route
