import Stencil.Number.Notation
import Stencil.Number.Reader
import Stencil.Regex.Problem
import Stencil.Text.Alphanumeric
import Stencil.Text.Blank
import Stencil.Text.Order

/-!
A directive such as `target[span{field=value}]=level` says how much of the log is shown where it
applies. Every part may be absent; without a level everything is shown.
-/
namespace Stencil.Log

-- How much is shown.
inductive Verbosity
  | off
  | error
  | warn
  | info
  | debug
  | trace
deriving DecidableEq

namespace Verbosity

def all : List Verbosity := [off, error, warn, info, debug, trace]

def name : Verbosity → Text
  | off => "off"
  | error => "error"
  | warn => "warn"
  | info => "info"
  | debug => "debug"
  | trace => "trace"

-- A verbosity is written as its name or as its place in the order.
def ofText? (t : Text) : Option Verbosity :=
  match Number.nat? 5 t with
  | some n => all[n]?
  | none => all.find? fun v => v.name = Text.lowerAscii t

end Verbosity

inductive FieldValue
  | bool (b : Bool)
  | float (x : Number.Binary64)
  | int (i : Int)
  | nat (n : Nat)
  | pattern (t : Text)
deriving DecidableEq

namespace FieldValue

open Number

-- The first of these that a text can be read as.
def ofText (t : Text) : Except Regex.Problem FieldValue :=
  if t = "true" then .ok (bool true)
  else if t = "false" then .ok (bool false)
  else match Number.nat? (Nat.pow 2 64 - 1) t, Number.int? (-(Nat.pow 2 63)) (Nat.pow 2 63 - 1) t,
    double? t with
    | some n, _, _ => .ok (nat n)
    | none, some i, _ => .ok (int i)
    | none, none, some x => .ok (float x)
    | none, none, none =>
      match Regex.problem? t with
      | none => .ok (pattern t)
      | some problem => .error problem

def text : FieldValue → Text
  | bool b => Text.ofBool b
  | float x => Layout.plain.render x
  | int i => Text.ofInt i
  | nat n => Text.ofNat n
  | pattern t => t

def rank : FieldValue → Nat
  | bool _ => 0
  | float _ => 1
  | nat _ => 2
  | int _ => 3
  | pattern _ => 4

-- By kind, and within a kind by value.
def order : FieldValue → FieldValue → Ordering
  | bool a, bool b => compare a.toNat b.toNat
  | float x, float y => x.order y
  | int i, int j => compare i j
  | nat m, nat n => compare m n
  | pattern s, pattern t => Text.order s t
  | a, b => compare a.rank b.rank

end FieldValue

structure Field where
  name : Text
  value? : Option FieldValue
deriving DecidableEq

namespace Field

-- A name, or a name and a value. What follows a second equals sign is passed over.
def ofText (t : Text) : Except Regex.Problem Field :=
  match Text.split '=' t with
  | name :: value :: _ => (FieldValue.ofText value).map fun value => ⟨name, some value⟩
  | _ => .ok ⟨t, none⟩

def text (f : Field) : Text :=
  f.name ++ match f.value? with
    | some value => '=' :: value.text
    | none => []

-- Fields with a value come after those without.
def order (f g : Field) : Ordering :=
  match f.value?, g.value? with
  | none, some _ => .lt
  | some _, none => .gt
  | none, none => Text.order f.name g.name
  | some a, some b => (Text.order f.name g.name).then (a.order b)

end Field

structure Directive where
  target? : Option Text
  span? : Option Text
  field? : Option Field
  verbosity : Verbosity
deriving DecidableEq

namespace Directive

inductive Error
  -- The program does not get any further, and no one is told of it.
  | crash
  | malformed
  | badVerbosity
  | badField (problem : Regex.Problem)
deriving DecidableEq

def Error.message : Error → Text
  | crash => []
  | malformed => "invalid filter directive"
  | badVerbosity =>
    "error parsing level filter: expected one of \"off\", \"error\", \"warn\", \"info\", \"debug\", \"trace\", or a number 0-5"
  | badField problem => "invalid field filter: " ++ problem.message

-- The verbosity after an equals sign.
def level (t : Text) : Except Error Verbosity :=
  if t = [] then .ok .trace
  else match Verbosity.ofText? t with
    | some v => .ok v
    | none => .error .badVerbosity

-- Is an offset that of the start or the end of a character?
def isBoundary (t : Text) (offset : Nat) : Bool :=
  Text.byteLength (Text.takeBytes offset t) = offset

-- The text between two offsets. A cut inside of a character crashes the program.
def slice (t : Text) (first last : Nat) : Except Error Text :=
  if isBoundary t first && isBoundary t last then .ok (Text.takeBytes (last - first) (Text.dropBytes first t))
  else .error .crash

def levelFrom (t : Text) (offset : Nat) : Except Error Verbosity := do
  level (← slice t offset t.byteLength)

-- What follows the closing bracket at an offset.
def levelAt (t : Text) (offset : Nat) : Text → Except Error Verbosity
  | [] => .ok .trace
  | '=' :: _ => levelFrom t (offset + 1)
  | _ => .error .malformed

-- The parts from a bracket on, the first of them at an offset.
def inBrackets (t : Text) (target? : Option Text) (start : Nat) (rest : Text) : Except Error Directive :=
  let isName (c : Char) := c ≠ ']' && c ≠ '{'
  let stop := start + Text.byteLength (rest.takeWhile isName)
  match rest.dropWhile isName with
  | ']' :: rest => do
    let span ← slice t start stop
    return ⟨target?, some span, none, ← levelAt t (stop + 1) rest⟩
  | '{' :: rest => do
    let span ← slice t start stop
    let fieldStop := stop + 1 + Text.byteLength (rest.takeWhile (· ≠ '}'))
    match rest.dropWhile (· ≠ '}') with
    | '}' :: rest =>
      let field ← slice t (stop + 1) fieldStop
      if field = [] then .error .malformed
      else
        let field ← (Field.ofText field).mapError .badField
        match rest with
        | ']' :: rest =>
          let span? := if span = [] then none else some span
          return ⟨target?, span?, some field, ← levelAt t (fieldStop + 2) rest⟩
        | _ => .error .malformed
    | _ => .error .malformed
  | _ => .error .malformed

def isTargetStart (c : Char) : Bool :=
  c = '-' || c = ':' || c = '_' || Text.isAlphanumeric c

-- Reads a directive. The places of its parts are found in the text without the blanks around it,
-- but the parts are cut out of the whole text. With blanks of several bytes in front, a cut may fall inside of
-- a character.
def parse (t : Text) : Except Error Directive :=
  let body := Text.trimBlank t
  match body with
  | [] => .error .malformed
  | '[' :: rest => inBrackets t none 1 rest
  | c :: _ =>
    let isWord (c : Char) := c ≠ '=' && c ≠ '['
    let stop := Text.byteLength (body.takeWhile isWord)
    if !isTargetStart c then .error .malformed
    else match body.dropWhile isWord with
      | '=' :: _ => do return ⟨some (← slice t 0 stop), none, none, ← levelFrom t (stop + 1)⟩
      | '[' :: rest => do inBrackets t (some (← slice t 0 stop)) (stop + 1) rest
      | _ =>
        match Verbosity.ofText? t with
        | some v => .ok ⟨none, none, none, v⟩
        | none => .ok ⟨some t, none, none, .trace⟩

def print (d : Directive) : Text :=
  let field : Text := match d.field? with
    | some f => '{' :: f.text ++ ['}']
    | none => []
  let place := d.target?.getD [] ++
    if d.span?.isSome || d.field?.isSome then '[' :: d.span?.getD [] ++ field ++ [']'] else []
  if d.target?.isSome || d.span?.isSome || d.field?.isSome then place ++ '=' :: d.verbosity.name
  else d.verbosity.name

end Directive
end Stencil.Log
