import Stencil.Number.Binary64
import Stencil.Text.Basic

/-!
Numbers as people type them: an optional sign, and for floating-point values a point with digits on
at least one side, an exponent, or the name of an infinity or of not being a number.
-/
namespace Stencil.Number

def digits? (t : Text) : Option Nat :=
  if t ≠ [] && t.all Char.isDigit then some (Text.digitsValue t) else none

-- The value of a hexadecimal digit in either case.
def hexDigit? (c : Char) : Option Nat :=
  if c.isDigit then some (c.toNat - '0'.toNat)
  else if 'a' ≤ c && c ≤ 'f' then some (c.toNat - 'a'.toNat + 10)
  else if 'A' ≤ c && c ≤ 'F' then some (c.toNat - 'A'.toNat + 10)
  else none

-- Is there a minus in front, and what follows the sign.
def sign (t : Text) : Bool × Text :=
  match t with
  | '-' :: t => (true, t)
  | '+' :: t => (false, t)
  | t => (false, t)

-- A number between zero and `high`, which may carry a plus.
def nat? (high : Nat) (t : Text) : Option Nat := do
  let n ← digits? (match t with
    | '+' :: t => t
    | t => t)
  guard (n ≤ high)
  return n

-- A whole number between `low` and `high`.
def int? (low high : Int) (t : Text) : Option Int := do
  let (negative, t) := sign t
  let n ← digits? t
  let i : Int := if negative then -n else n
  guard (low ≤ i && i ≤ high)
  return i

-- The exponent after an `e`, or zero when there is none.
def exponent? : Text → Option Int
  | [] => some 0
  | c :: t =>
    if c = 'e' || c = 'E' then
      let (negative, t) := sign t
      (digits? t).map fun n => if negative then -n else n
    else none

def magnitude? (negative : Bool) (t : Text) : Option Binary64 :=
  let whole := t.takeWhile Char.isDigit
  let rest := t.dropWhile Char.isDigit
  let (fraction, rest) := match rest with
    | '.' :: rest => (rest.takeWhile Char.isDigit, rest.dropWhile Char.isDigit)
    | rest => ([], rest)
  if whole = [] && fraction = [] then none
  else (exponent? rest).map fun exponent =>
    Binary64.ofDecimal negative (Text.digitsValue (whole ++ fraction)) (exponent - fraction.length)

def double? (t : Text) : Option Binary64 :=
  let (negative, t) := sign t
  let name := Text.lowerAscii t
  if name = "inf" || name = "infinity" then some (.infinite negative)
  else if name = "nan" then some .nan
  else magnitude? negative t

end Stencil.Number
