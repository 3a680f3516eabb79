import Stencil.Number.Reader
import Stencil.Toml.Basic

/-!
Numbers of a TOML document. Single underscores may stand between digits, whole numbers have 64 bits,
and three other bases are written with their letter after a zero.
-/
namespace Stencil.Toml.Numeral

open Number

-- Digits without the underscores between them, with what follows.
def digits? (isDigit : Char → Bool) : Text → Option (Text × Text)
  | [] => none
  | c :: t =>
    if !isDigit c then none
    else match t with
      | '_' :: t => (digits? isDigit t).map fun (digits, rest) => (c :: digits, rest)
      | d :: t =>
        if isDigit d then (digits? isDigit (d :: t)).map fun (digits, rest) => (c :: digits, rest)
        else some ([c], d :: t)
      | [] => some ([c], [])

-- A zero, or digits that do not start with one.
def whole? : Text → Option (Text × Text)
  | '0' :: t => some (['0'], t)
  | t => digits? Char.isDigit t

def maxInt : Int := Nat.pow 2 63 - 1

def minInt : Int := -(Nat.pow 2 63)

def int? (i : Int) (rest : Text) : Option (Toml × Text) :=
  if minInt ≤ i && i ≤ maxInt then some (.int i, rest) else none

-- A whole number in another base, after the letter for it.
def based? (base : Nat) (t : Text) : Option (Toml × Text) := do
  let isDigit (c : Char) := (hexDigit? c).any (· < base)
  let (digits, rest) ← digits? isDigit t
  let n := (digits.filterMap hexDigit?).foldl (fun n d => base * n + d) 0
  int? n rest

-- The digits after a point, or none at all.
def fraction? (t : Text) : Option (Text × Text) :=
  match t with
  | '.' :: t => digits? Char.isDigit t
  | t => some ([], t)

def exponent? (t : Text) : Option (Int × Text) :=
  match t with
  | [] => some (0, [])
  | c :: t =>
    if c = 'e' || c = 'E' then do
      let (negative, t) := sign t
      let (digits, rest) ← digits? Char.isDigit t
      let n : Int := Text.digitsValue digits
      return (if negative then -n else n, rest)
    else some (0, c :: t)

-- A number with a fraction or an exponent. Positive overflow is refused.
def float? (negative : Bool) (whole : Text) (t : Text) : Option (Toml × Text) := do
  let (fraction, t) ← Numeral.fraction? t
  let (exponent, t) ← Numeral.exponent? t
  let x := Binary64.ofDecimal negative (Text.digitsValue (whole ++ fraction)) (exponent - fraction.length)
  guard (x ≠ .infinite false)
  return (.float x, t)

def decimal? (t : Text) : Option (Toml × Text) :=
  let (negative, t) := sign t
  match t with
  | 'i' :: 'n' :: 'f' :: t => some (.float (.infinite negative), t)
  | 'n' :: 'a' :: 'n' :: t => some (.float .nan, t)
  | t => do
    let (whole, t) ← whole? t
    if t.head?.any fun c => c = '.' || c = 'e' || c = 'E' then float? negative whole t
    else
      let n : Int := Text.digitsValue whole
      int? (if negative then -n else n) t

def read? : Text → Option (Toml × Text)
  | '0' :: 'x' :: t => based? 16 t
  | '0' :: 'o' :: t => based? 8 t
  | '0' :: 'b' :: t => based? 2 t
  | t => decimal? t

end Stencil.Toml.Numeral
