import Stencil.Number.Notation
import Stencil.Number.Reader
import Stencil.Text.Quoted

/-!
The values that a layer of settings assigns. A value remembers where it was written, so that a wrong
type can be reported with its place; the tables that layers are merged into come from nowhere.
-/
namespace Stencil.Settings

open Number

inductive Scalar
  | nil
  | bool (b : Bool)
  | int (i : Int)
  | float (x : Binary64)
  | text (t : Text)
deriving DecidableEq

inductive Value
  | scalar (origin? : Option Text) (s : Scalar)
  | array (origin? : Option Text) (items : List Value)
  | table (origin? : Option Text) (entries : List (Text × Value))

namespace Value

mutual

def decEq : (v w : Value) → Decidable (v = w)
  | scalar origin? s, scalar origin'? s' => decidable_of_iff (origin? = origin'? ∧ s = s') <| by simp
  | array origin? items, array origin'? items' =>
    have := decEqItems items items'
    decidable_of_iff (origin? = origin'? ∧ items = items') <| by simp
  | table origin? entries, table origin'? entries' =>
    have := decEqEntries entries entries'
    decidable_of_iff (origin? = origin'? ∧ entries = entries') <| by simp
  | scalar .., array .. | scalar .., table .. | array .., scalar .. | array .., table .. | table .., scalar ..
  | table .., array .. => isFalse nofun

def decEqItems : (vs ws : List Value) → Decidable (vs = ws)
  | [], [] => isTrue rfl
  | v :: vs, w :: ws =>
    have := decEq v w
    have := decEqItems vs ws
    decidable_of_iff (v = w ∧ vs = ws) <| by simp
  | [], _ :: _ | _ :: _, [] => isFalse nofun

def decEqEntries : (es es' : List (Text × Value)) → Decidable (es = es')
  | [], [] => isTrue rfl
  | (k, v) :: es, (k', w) :: es' =>
    have := decEq v w
    have := decEqEntries es es'
    decidable_of_iff (k = k' ∧ v = w ∧ es = es') <| by simp [and_assoc]
  | [], _ :: _ | _ :: _, [] => isFalse nofun

end

instance : DecidableEq Value := decEq

end Value

-- What was found where something else was expected.
inductive Found
  | scalar (s : Scalar)
  | sequence
  | map
deriving DecidableEq

inductive Expected
  | text
  | integer
  | unsigned
deriving DecidableEq

inductive Problem
  -- The program does not get any further, and no one is told of it.
  | crash
  -- A layer is missing, or its text cannot be read.
  | unreadable
  | wrongType (found : Found) (expected : Expected) (key : Text) (origin? : Option Text)
  | wrongSection (found : Found) (name : Text)
  | unknownFormat (word : Text)
  | formatShape
deriving DecidableEq

-- How a value is named where a setting of another type was expected.
def Found.phrase : Found → Text
  | scalar .nil => "unit value"
  | scalar (.bool b) => "boolean `" ++ Text.ofBool b ++ "`"
  | scalar (.int i) => "64-bit integer `" ++ Text.ofInt i ++ "`"
  | scalar (.float x) => "floating point `" ++ Layout.plain.render x ++ "`"
  | scalar (.text t) => "string " ++ Text.quoted t
  | sequence => "sequence"
  | map => "map"

-- How a value is named where a section was expected.
def Found.sectionPhrase : Found → Text
  | scalar (.int i) => "integer `" ++ Text.ofInt i ++ "`"
  | scalar (.float x) => "floating point `" ++ Layout.plainWithFraction.render x ++ "`"
  | found => found.phrase

def Expected.phrase : Expected → Text
  | text => "a string"
  | integer => "an integer"
  | unsigned => "an unsigned 64 bit or less integer"

-- The text of a problem, unless it is left to the reader of some file format.
def Problem.message? : Problem → Option Text
  | crash | unreadable => none
  | wrongType found expected key origin? =>
    let place := match origin? with
      | some origin => " in " ++ origin
      | none => []
    some ("invalid type: " ++ found.phrase ++ ", expected " ++ expected.phrase ++ " for key `" ++ key ++ "`" ++ place)
  | wrongSection found name => some ("invalid type: " ++ found.sectionPhrase ++ ", expected struct " ++ name)
  | unknownFormat word => some ("enum LogFormat does not have variant constructor " ++ word)
  | formatShape =>
    some "value of enum LogFormat should be represented by either string or table with exactly one key"

namespace Scalar

-- The words that stand for one and for zero.
def switch? (t : Text) : Option Nat :=
  let word := Text.lowerAscii t
  if word = "true" || word = "on" || word = "yes" then some 1
  else if word = "false" || word = "off" || word = "no" then some 0
  else none

def clamp (low high i : Int) : Int :=
  max low (min high i)

-- The nearest whole number in a range; not being a number counts as zero.
def roundWithin (low high : Int) (x : Binary64) : Int :=
  match x with
  | .nan => 0
  | .infinite negative => if negative then low else high
  | x => clamp low high (x.round?.getD 0)

def text? : Scalar → Option Text
  | nil => none
  | bool b => some (Text.ofBool b)
  | int i => some (Text.ofInt i)
  | float x => some (Layout.plain.render x)
  | text t => some t

def maxNat : Nat := Nat.pow 2 64 - 1

def minInt : Int := -(Nat.pow 2 63)

def maxInt : Int := Nat.pow 2 63 - 1

-- A scalar as a natural number of 64 bits, or what was expected instead of it.
def nat : Scalar → Except Expected Nat
  | nil => .error .integer
  | bool b => .ok b.toNat
  | int i => if 0 ≤ i then .ok i.toNat else .error .unsigned
  | float x => .ok (roundWithin 0 maxNat x).toNat
  | text t =>
    match switch? t with
    | some n => .ok n
    | none =>
      match Number.nat? maxNat t with
      | some n => .ok n
      | none => .error .integer

-- A scalar as a whole number of 64 bits, or what was expected instead of it.
def int64 : Scalar → Except Expected Int
  | nil => .error .integer
  | bool b => .ok b.toNat
  | int i => .ok i
  | float x => .ok (roundWithin minInt maxInt x)
  | text t =>
    match switch? t with
    | some n => .ok n
    | none =>
      match Number.int? minInt maxInt t with
      | some i => .ok i
      | none => .error .integer

end Scalar

namespace Value

def emptyTable : Value := .table none []

-- Converts the value of a key, if it is a scalar that can be converted.
def convert (expected : Expected) (read : Scalar → Except Expected α) (key : Text) :
    Value → Except Problem α
  | scalar origin? s =>
    match read s with
    | .ok a => .ok a
    | .error expected => .error (.wrongType (.scalar s) expected key origin?)
  | array origin? _ => .error (.wrongType .sequence expected key origin?)
  | table origin? _ => .error (.wrongType .map expected key origin?)

def text : Text → Value → Except Problem Text :=
  convert .text fun s =>
    match s.text? with
    | some t => .ok t
    | none => .error .text

def nat : Text → Value → Except Problem Nat :=
  convert .integer Scalar.nat

def int64 : Text → Value → Except Problem Int :=
  convert .integer Scalar.int64

end Value
end Stencil.Settings
