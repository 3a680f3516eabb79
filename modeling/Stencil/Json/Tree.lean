import Stencil.Json.Basic

/-!
The tree of a JSON text as it is written: numerals and strings are not yet given a meaning, and an
object may repeat a name. `Tree.value?` gives the meaning of a whole tree.
-/
namespace Stencil.Json

open Number

-- A number as it is written.
structure Numeral where
  negative : Bool
  whole : Text
  fraction? : Option Text
  -- The exponent, without its sign and whether that is a minus.
  exponent? : Option (Bool × Text)
deriving DecidableEq

inductive Tree
  | null
  | bool (b : Bool)
  | number (n : Numeral)
  -- A string that holds half a surrogate pair has no text.
  | string (text? : Option Text)
  | array (items : List Tree)
  | object (members : List (Option Text × Tree))

namespace Numeral

-- The largest significand.
def maxSignificand : Nat := Nat.pow 2 64 - 1

-- Appends digits to a significand while it stays in range; also how many of them it took.
def gather (significand : Nat) : Text → Nat × Nat
  | [] => (significand, 0)
  | c :: digits =>
    let more := 10 * significand + (c.toNat - '0'.toNat)
    if more ≤ maxSignificand then
      let (significand, taken) := gather more digits
      (significand, taken + 1)
    else (significand, 0)

-- `10 ^ n` as a floating-point value.
def power (n : Nat) : Binary64 :=
  Binary64.ofNat (Nat.pow 10 n)

-- Divides by `10 ^ n`, in steps of the largest power in range.
def scaleDown (x : Binary64) (n : Nat) : Binary64 :=
  if n ≤ 308 then x.div (power n)
  else if x.isZero then x
  else scaleDown (x.div (power 308)) (n - 308)
termination_by n

-- `significand · 10 ^ exponent`, unless it is out of range. Significand and power are rounded
-- before they are combined, and the result is rounded again.
def scale? (significand : Nat) (exponent : Int) : Option Binary64 :=
  let x := Binary64.ofNat significand
  match exponent with
  | .negSucc n => some (scaleDown x (n + 1))
  | .ofNat n =>
    if n ≤ 308 then
      let y := x.mul (power n)
      if y.isInfinite then none else some y
    else if x.isZero then some x
    else none

def withSign (negative : Bool) : Binary64 → Binary64
  | .finite _ m e => .finite negative m e
  | x => x

-- The value of a numeral, unless it is out of range. Without fraction and exponent a numeral is a
-- whole number if 64 bits hold it.
def value? (n : Numeral) : Option Numeric :=
  let (significand, taken) := gather 0 n.whole
  let skipped := n.whole.length - taken
  if n.fraction?.isNone && n.exponent?.isNone && skipped = 0 && !n.negative then
    some (.int significand)
  else if n.fraction?.isNone && n.exponent?.isNone && skipped = 0
      && 0 < significand && significand ≤ Nat.pow 2 63 then
    some (.int (-significand))
  else
    let (significand, places) := gather significand (n.fraction?.getD [])
    let shift : Int := (skipped : Int) - places
    let double? : Option Binary64 := match n.exponent? with
      | none => scale? significand shift
      | some (minus, digits) =>
        let exponent := Text.digitsValue digits
        if exponent ≤ Nat.pow 2 31 - 1 then scale? significand (if minus then shift - exponent else shift + exponent)
        else if minus || significand = 0 then some (.zero false)
        else none
    double?.map fun x => .double (withSign n.negative x)

end Numeral

namespace Tree

-- How deep arrays and objects may nest.
def maxDepth : Nat := 127

mutual

-- The value of a tree in which arrays and objects nest at most `depth` deep.
def valueWithin? (depth : Nat) : Tree → Option Json
  | null => some .null
  | bool b => some (.bool b)
  | number n => n.value?.map .number
  | string text? => text?.map .string
  | array items =>
    match depth with
    | 0 => none
    | depth + 1 => (itemsWithin? depth items).map .array
  | object members =>
    match depth with
    | 0 => none
    | depth + 1 => (membersWithin? depth members).map fun entries => .object (Dictionary.ofEntries entries)

def itemsWithin? (depth : Nat) : List Tree → Option (List Json)
  | [] => some []
  | item :: items => do
    let value ← valueWithin? depth item
    let values ← itemsWithin? depth items
    return value :: values

def membersWithin? (depth : Nat) : List (Option Text × Tree) → Option (List (Text × Json))
  | [] => some []
  | (key?, member) :: members => do
    let key ← key?
    let value ← valueWithin? depth member
    let values ← membersWithin? depth members
    return (key, value) :: values

end

def value? (t : Tree) : Option Json :=
  t.valueWithin? maxDepth

end Tree
end Stencil.Json
