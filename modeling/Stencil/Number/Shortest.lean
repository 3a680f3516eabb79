import Stencil.Number.Binary64

/-!
The fewest decimal digits that read back as a given value. The reals that round to a value form an
interval around it; on the grid of `n`-digit decimals only the two neighbours of the value need to
be tried, and the first grid with a point in the interval gives the digits. Where both neighbours are
in it and equally near, a rule for ties decides.
-/
namespace Stencil.Number

-- Which of two equally near decimals is taken.
inductive Tie
  | even
  | up
deriving DecidableEq

-- Is the lower of two neighbours on a grid taken, of which the upper one is as near?
def Tie.takesLower (tie : Tie) (low : Nat) : Bool :=
  match tie with
  | even => low % 2 = 0
  | up => false

-- The decimal `0.d₁d₂… · 10 ^ point`, with as many digits as there are in `digits`.
structure Decimal where
  digits : Nat
  point : Int
deriving DecidableEq

namespace Binary64

-- The largest `p` with `10 ^ p ≤ num / den`.
def log10 (num den : Nat) : Int :=
  let guess := (((num.log2 : Int) - den.log2) * 30103).fdiv 100000
  let reaches (p : Int) : Bool := match p with
    | .ofNat n => den * Nat.pow 10 n ≤ num
    | .negSucc n => den ≤ num * Nat.pow 10 (n + 1)
  if reaches (guess + 1) then guess + 1
  else if reaches guess then guess
  else guess - 1

-- Is `x` between `low` and `high`, the ends counting when the interval is closed?
def inInterval (closed : Bool) (low high x : Nat) : Bool :=
  if closed then low ≤ x && x ≤ high else low < x && x < high

-- The fewest digits that read back as the positive value `m · 2 ^ e`, if seventeen are enough.
def shortest? (tie : Tie) (m : Nat) (e : Int) : Option Decimal :=
  let (num, den) := scaled m 1 e
  let p := log10 num den
  let below := if m = Nat.pow 2 52 && minExponent < e then 1 else 2
  let lowest := 4 * m - below
  let highest := 4 * m + 2
  let quarter := scaled 1 1 (e - 2)
  (List.range 17).findSome? fun (more : Nat) =>
    let k := p - more
    -- A quarter of `2 ^ e` is counted as `unit`, a step of the grid as `step`.
    let (unit, step) := match k with
      | .ofNat n => (quarter.1, quarter.2 * Nat.pow 10 n)
      | .negSucc n => (quarter.1 * Nat.pow 10 (n + 1), quarter.2)
    let value := 4 * m * unit
    let low := value / step
    let fits (d : Nat) := inInterval (m % 2 = 0) (lowest * unit) (highest * unit) (d * step)
    let found := match fits low, fits (low + 1) with
      | true, true =>
        let twice := 2 * (value - low * step)
        if twice < step || (twice = step && tie.takesLower low) then some low else some (low + 1)
      | true, false => some low
      | false, true => some (low + 1)
      | false, false => none
    found.map fun d =>
      let digits := (Nat.toDigits 10 d).length
      ⟨d, k + digits⟩

end Binary64
end Stencil.Number
