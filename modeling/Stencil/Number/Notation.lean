import Stencil.Number.Shortest
import Stencil.Text.Basic

/-!
Writing numbers with a fractional part. Which digits are written is decided by `Shortest`; a layout
decides where positional notation ends and whether whole numbers keep a fraction.
-/
namespace Stencil.Number

structure Layout where
  -- Positional notation is used for values from `10 ^ least` on, …
  least? : Option Int
  -- … below `10 ^ most`.
  most? : Option Int
  -- Whole numbers end in `.0`.
  keepFraction : Bool
  tie : Tie
  infinity : Text
  nan : Text

namespace Layout

-- Values in full, without an exponent.
def plain : Layout where
  least? := none
  most? := none
  keepFraction := false
  tie := .up
  infinity := "inf"
  nan := "NaN"

-- The same with a fraction for whole numbers.
def plainWithFraction : Layout :=
  { plain with keepFraction := true }

def isPositional (l : Layout) (point : Int) : Bool :=
  l.least?.all (· < point) && l.most?.all (point ≤ ·)

-- Digits with a point `point` places after the start.
def positional (l : Layout) (digits : Text) (point : Int) : Text :=
  if point ≤ 0 then "0." ++ List.replicate point.natAbs '0' ++ digits
  else if point.natAbs < digits.length then
    digits.take point.natAbs ++ ['.'] ++ digits.drop point.natAbs
  else
    digits ++ List.replicate (point.natAbs - digits.length) '0' ++ (if l.keepFraction then ['.', '0'] else [])

-- One digit, the others after a point, and the exponent with its sign.
def scientific (digits : Text) (point : Int) : Text :=
  let exponent := point - 1
  let fraction := digits.drop 1
  digits.take 1 ++ (if fraction.isEmpty then [] else '.' :: fraction) ++ ['e']
    ++ (if exponent < 0 then ['-'] else ['+']) ++ Text.ofNat exponent.natAbs

-- The digits of a decimal without the zeros at their end.
def significantDigits (d : Decimal) : Text :=
  Text.dropWhileEnd (· = '0') (Text.ofNat d.digits)

def render (l : Layout) : Binary64 → Text
  | .nan => l.nan
  | .infinite negative => (if negative then ['-'] else []) ++ l.infinity
  | .finite negative m e =>
    let sign : Text := if negative then ['-'] else []
    match if m = 0 then none else Binary64.shortest? l.tie m e with
    | none => sign ++ ['0'] ++ (if l.keepFraction then ['.', '0'] else [])
    | some d =>
      let digits := significantDigits d
      sign ++ (if l.isPositional d.point then l.positional digits d.point else scientific digits d.point)

end Layout
end Stencil.Number
