/-!
Floating-point numbers with 53 bits of significand, as exact integers: arithmetic is done on ratios
of natural numbers and rounded once, to the nearest representable value, ties to the even one.
-/
namespace Stencil.Number

inductive Binary64
  -- The number `± significand · 2 ^ exponent`.
  | finite (negative : Bool) (significand : Nat) (exponent : Int)
  | infinite (negative : Bool)
  | nan
deriving DecidableEq

namespace Binary64

-- The exponent of the smallest positive value.
def minExponent : Int := -1074

-- The exponent of the largest finite values.
def maxExponent : Int := 971

def zero (negative : Bool) : Binary64 :=
  .finite negative 0 minExponent

-- The quotient to the nearest integer, of two equally near ones to the even one.
def divRound (num den : Nat) : Nat :=
  let q := num / den
  let twice := 2 * (num % den)
  if twice < den || (twice = den && q % 2 = 0) then q else q + 1

-- The ratio `num · 2 ^ shift / den`, as numerator and denominator.
def scaled (num den : Nat) (shift : Int) : Nat × Nat :=
  match shift with
  | .ofNat n => (num * Nat.pow 2 n, den)
  | .negSucc n => (num, den * Nat.pow 2 (n + 1))

-- The value nearest to `num / den`.
def ofRatio (negative : Bool) (num den : Nat) : Binary64 :=
  if num = 0 then zero negative
  else
    let guess : Int := (num.log2 : Int) - den.log2 - 52
    let (n, d) := scaled num den (-guess)
    let exponent := max (if n < d * Nat.pow 2 52 then guess - 1 else guess) minExponent
    let (n, d) := scaled num den (-exponent)
    let significand := divRound n d
    let (significand, exponent) :=
      if significand = Nat.pow 2 53 then (Nat.pow 2 52, exponent + 1) else (significand, exponent)
    if maxExponent < exponent then .infinite negative else .finite negative significand exponent

def ofNat (n : Nat) : Binary64 :=
  ofRatio false n 1

def ofInt (i : Int) : Binary64 :=
  ofRatio (i < 0) i.natAbs 1

-- The value nearest to `digits · 10 ^ exponent`. Far beyond either end of the range the exponent
-- decides alone.
def ofDecimal (negative : Bool) (digits : Nat) (exponent : Int) : Binary64 :=
  let magnitude := exponent + (Nat.toDigits 10 digits).length
  if digits = 0 || magnitude < -400 then zero negative
  else if 400 < magnitude then .infinite negative
  else match exponent with
    | .ofNat n => ofRatio negative (digits * Nat.pow 10 n) 1
    | .negSucc n => ofRatio negative digits (Nat.pow 10 (n + 1))

def isZero : Binary64 → Bool
  | finite _ 0 _ => true
  | _ => false

def isInfinite : Binary64 → Bool
  | infinite _ => true
  | _ => false

-- The product of two finite values.
def mul : Binary64 → Binary64 → Binary64
  | finite a m e, finite b n f =>
    let (num, den) := scaled (m * n) 1 (e + f)
    ofRatio (a != b) num den
  | _, _ => nan

-- The quotient of two finite values, of which the second is not zero.
def div : Binary64 → Binary64 → Binary64
  | finite a m e, finite b n f =>
    let (num, den) := scaled m n (e - f)
    ofRatio (a != b) num den
  | _, _ => nan

-- Equality of numbers: the zeros are equal, and nothing equals `nan`.
def same (x y : Binary64) : Bool :=
  if x = nan then false else (x.isZero && y.isZero) || x = y

-- The order of numbers; `nan` comes after all others.
def order : Binary64 → Binary64 → Ordering
  | nan, nan => .eq
  | nan, _ => .gt
  | _, nan => .lt
  | infinite a, infinite b => compare b.toNat a.toNat
  | infinite a, _ => if a then .lt else .gt
  | _, infinite b => if b then .gt else .lt
  | finite a m e, finite b n f =>
    let lowest := min e f
    let whole (negative : Bool) (m : Nat) (e : Int) : Int :=
      let magnitude : Int := m * Nat.pow 2 (e - lowest).toNat
      if negative then -magnitude else magnitude
    compare (whole a m e) (whole b n f)

-- The nearest integer, of two equally near ones the one further from zero.
def round? : Binary64 → Option Int
  | finite negative m e =>
    let (num, den) := scaled m 1 e
    let magnitude : Int := ((2 * num + den) / (2 * den) : Nat)
    some (if negative then -magnitude else magnitude)
  | _ => none

end Binary64
end Stencil.Number
