import Stencil.Time.Instant

/-!
Instants as text, with as many groups of three decimals as the fraction of a second needs.
-/
namespace Stencil.Instant

-- The last `width` decimal digits of a number.
def padded : (width : Nat) → Nat → Text
  | 0, _ => []
  | width + 1, n => padded width (n / 10) ++ [Nat.digitChar (n % 10)]

-- Years outside the four digits carry a sign.
def yearText (year : Int) : Text :=
  if 0 ≤ year && year ≤ 9999 then padded 4 year.natAbs
  else
    let digits := Text.ofNat year.natAbs
    (if year < 0 then ['-'] else ['+']) ++ List.replicate (4 - digits.length) '0' ++ digits

def fractionText (nanosecond : Nat) : Text :=
  if nanosecond = 0 then []
  else if nanosecond % Nat.pow 10 6 = 0 then '.' :: padded 3 (nanosecond / Nat.pow 10 6)
  else if nanosecond % Nat.pow 10 3 = 0 then '.' :: padded 6 (nanosecond / Nat.pow 10 3)
  else '.' :: padded 9 nanosecond

def print (i : Instant) : Text :=
  yearText i.year ++ ['-'] ++ padded 2 i.month ++ ['-'] ++ padded 2 i.day ++ ['T']
    ++ padded 2 i.hour ++ [':'] ++ padded 2 i.minute ++ [':'] ++ padded 2 i.second
    ++ fractionText i.nanosecond ++ ['Z']

end Stencil.Instant
