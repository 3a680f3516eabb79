import Stencil.Dictionary
import Stencil.Number.Notation

/-!
JSON values. Whole numbers of up to 64 bits are kept exactly, all other numbers as floating-point
values, and the two are never equal. The members of an object are in the order of their names.
-/
namespace Stencil

namespace Json

open Number

inductive Numeric
  | int (value : Int)
  | double (value : Binary64)
deriving DecidableEq

namespace Numeric

def same : Numeric → Numeric → Bool
  | int i, int j => i = j
  | double x, double y => x.same y
  | _, _ => false

-- Floating-point values always show a fraction or an exponent.
def layout : Layout where
  least? := some (-5)
  most? := some 16
  keepFraction := true
  tie := .even
  infinity := "inf"
  nan := "NaN"

def text : Numeric → Text
  | int i => Text.ofInt i
  | double x => layout.render x

end Numeric
end Json

inductive Json
  | null
  | bool (b : Bool)
  | number (n : Json.Numeric)
  | string (t : Text)
  | array (items : List Json)
  | object (members : List (Text × Json))

namespace Json

def int (i : Int) : Json :=
  .number (.int i)

def nat (n : Nat) : Json :=
  .number (.int n)

def text? : Json → Option Text
  | string t => some t
  | _ => none

def int? : Json → Option Int
  | number (.int i) => some i
  | _ => none

def member? (key : Text) : Json → Option Json
  | object members => Dictionary.find? key members
  | _ => none

mutual

-- Equality of values, with numbers compared as numbers.
def same : Json → Json → Bool
  | null, null => true
  | bool a, bool b => a = b
  | number m, number n => m.same n
  | string s, string t => s = t
  | array as, array bs => sameItems as bs
  | object as, object bs => sameMembers as bs
  | _, _ => false

def sameItems : List Json → List Json → Bool
  | [], [] => true
  | a :: as, b :: bs => same a b && sameItems as bs
  | _, _ => false

def sameMembers : List (Text × Json) → List (Text × Json) → Bool
  | [], [] => true
  | (k, a) :: as, (l, b) :: bs => k = l && same a b && sameMembers as bs
  | _, _ => false

end

end Json
end Stencil
