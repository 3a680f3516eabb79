import Stencil.Environment.Basic
import Stencil.Text.Alphanumeric
import Stencil.Text.Blank

/-!
Assignments such as `export NAME="a $OTHER" # note`. Quotes, escapes and references to variables are
resolved from left to right, one character at a time.
-/
namespace Stencil.Environment

inductive Assignment
  | blank
  | assignment (name value : Text)
  | malformed
deriving DecidableEq

namespace Assignment

inductive Quoting
  | bare
  | strong
  | weak
deriving DecidableEq

-- What the next character of a value is part of.
inductive Mode
  | plain
  | escape
  -- The name of a variable after a dollar sign.
  | reference (name : Text)
  -- The name of a variable in braces.
  | braces (name : Text)
  -- Blanks after a value.
  | ending
  | comment
deriving DecidableEq

structure State where
  quoting : Quoting
  mode : Mode
  output : Text
deriving DecidableEq

namespace State

def start : State := ⟨.bare, .plain, []⟩

def push (s : State) (t : Text) : State :=
  { s with mode := .plain, output := s.output ++ t }

-- A plain character.
def plainStep (s : State) (c : Char) : State :=
  match s.quoting with
  | .strong => if c = '\'' then { s with quoting := .bare } else s.push [c]
  | .weak =>
    if c = '$' then { s with mode := .reference [] }
    else if c = '"' then { s with quoting := .bare }
    else if c = '\\' then { s with mode := .escape }
    else s.push [c]
  | .bare =>
    if c = '$' then { s with mode := .reference [] }
    else if c = '\'' then { s with quoting := .strong }
    else if c = '"' then { s with quoting := .weak }
    else if c = '\\' then { s with mode := .escape }
    else if c = ' ' || c = '\t' then { s with mode := .ending }
    else s.push [c]

-- The character after a name goes in as it is, even where it would close a quote.
def referenceStep (lookup : Text → Text) (s : State) (name : Text) (c : Char) : State :=
  if Text.isAlphanumeric c then { s with mode := .reference (name ++ [c]) }
  else if c = '{' && name = [] then { s with mode := .braces [] }
  else if c = '$' then { s.push (lookup name) with mode := .reference [] }
  else s.push (lookup name ++ [c])

-- The state after a character, unless the character may not stand there.
def step? (lookup : Text → Text) (s : State) (c : Char) : Option State :=
  match s.mode with
  | .plain => some (s.plainStep c)
  | .escape =>
    if c = '\\' || c = '\'' || c = '"' || c = '$' || c = ' ' then some (s.push [c])
    else if c = 'n' then some (s.push ['\n'])
    else none
  | .reference name => some (s.referenceStep lookup name c)
  | .braces name =>
    if c = '}' then some (s.push (lookup name)) else some { s with mode := .braces (name ++ [c]) }
  | .ending =>
    if c = ' ' || c = '\t' then some s
    else if c = '#' then some { s with mode := .comment }
    else none
  | .comment => some s

-- The value at the end of a line, unless a quote or a brace is still open.
def value? (lookup : Text → Text) (s : State) : Option Text :=
  match s.quoting, s.mode with
  | .bare, .braces _ => none
  | .bare, .reference name => some (s.output ++ lookup name)
  | .bare, _ => some s.output
  | _, _ => none

end State

def value? (env : Environment) (t : Text) : Option Text :=
  let lookup (name : Text) := (env.find? name).getD []
  (t.foldlM (State.step? lookup) State.start).bind (State.value? lookup)

def isNameStart (c : Char) : Bool :=
  c.isAlpha || c = '_'

def isNameChar (c : Char) : Bool :=
  c.isAlphanum || c = '_' || c = '.'

-- A name, and what follows it and the blanks after it.
def name? (t : Text) : Option (Text × Text) :=
  if t.head?.any isNameStart then some (t.takeWhile isNameChar, (t.dropWhile isNameChar).dropWhile Text.isBlank)
  else none

-- A name, after the word `export` or not, and what follows its equals sign.
def target? (t : Text) : Option (Text × Text) := do
  let (name, t) ← name? t
  match t with
  | '=' :: t => return (name, t)
  | t =>
    guard (name = "export")
    let (name, '=' :: t) ← name? t | none
    return (name, t)

-- What a line assigns in an environment.
def parse (env : Environment) (line : Text) : Assignment :=
  let t := Text.trimBlank line
  if t = [] || t.head? = some '#' then blank
  else match target? t with
    | none => malformed
    | some (name, t) =>
      let t := t.dropWhile Text.isBlank
      if t = [] || t.head? = some '#' then assignment name []
      else match value? env t with
        | some value => assignment name value
        | none => malformed

end Assignment
end Stencil.Environment
