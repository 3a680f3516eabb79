import Stencil.Text.Blank
import Stencil.Time.Instant

/-!
Reading an instant: a date, a `T` or a blank, a time of day and an offset from universal time. Blanks
may stand before every number and before the signs between them.
-/
namespace Stencil.Instant

namespace Reader

def skipBlank (t : Text) : Text :=
  t.dropWhile Text.isBlank

-- At most `width` digits and at least one, with what follows them.
def number? (width : Nat) (t : Text) : Option (Nat × Text) :=
  let digits := (t.take width).takeWhile Char.isDigit
  if digits = [] then none else some (Text.digitsValue digits, t.drop digits.length)

-- A number between two bounds, after blanks.
def field? (width low high : Nat) (t : Text) : Option (Nat × Text) := do
  let (n, rest) ← number? width (skipBlank t)
  guard (low ≤ n && n ≤ high)
  return (n, rest)

-- A year has up to four digits, or a sign and any number of them.
def year? (t : Text) : Option (Int × Text) :=
  match skipBlank t with
  | '-' :: t => (number? t.length t).map fun (n, rest) => (-n, rest)
  | '+' :: t => (number? t.length t).map fun (n, rest) => (n, rest)
  | t => (number? 4 t).map fun (n, rest) => (n, rest)

-- A sign between numbers, after blanks.
def sign? (c : Char) (t : Text) : Option Text :=
  match skipBlank t with
  | d :: rest => if d = c then some rest else none
  | [] => none

-- Digits after a point; those after the ninth do not count.
def fraction? : Text → Option (Nat × Text)
  | '.' :: t =>
    let digits := (t.take 9).takeWhile Char.isDigit
    if digits = [] then none
    else some (Text.digitsValue digits * Nat.pow 10 (9 - digits.length), t.dropWhile Char.isDigit)
  | t => some (0, t)

-- Two digits, the first of them at most `most`.
def twoDigits? (most : Char) : Text → Option (Nat × Text)
  | c :: d :: t => if c.isDigit && c ≤ most && d.isDigit then some (Text.digitsValue [c, d], t) else none
  | _ => none

-- An offset in minutes: `Z`, `UTC`, or a sign, hours and minutes.
def offset? (t : Text) : Option (Int × Text) :=
  if Text.upper (t.take 3) = "UTC" then some (0, t.drop 3)
  else match t with
    | [] => none
    | c :: t =>
      if c = 'Z' || c = 'z' then some (0, t)
      else if c = '+' || c = '-' || c = '−' then do
        let (hours, t) ← twoDigits? '9' t
        let (minutes, t) ← twoDigits? '5' (t.dropWhile fun c => c = ':' || Text.isBlank c)
        guard (hours < 24)
        let offset : Int := 60 * hours + minutes
        return (if c = '+' then offset else -offset, t)
      else none

end Reader

open Reader

def parse? (t : Text) : Option Instant := do
  let (year, t) ← year? t
  let (month, t) ← field? 2 1 12 (← sign? '-' t)
  let (day, t) ← field? 2 1 31 (← sign? '-' t)
  let separator :: t := t | none
  guard (separator = 'T' || separator = 't' || separator = ' ')
  let (hour, t) ← field? 2 0 23 t
  let (minute, t) ← field? 2 0 59 (← sign? ':' t)
  let (second, t) ← field? 2 0 60 (← sign? ':' t)
  let (nanosecond, t) ← fraction? t
  let (offset, t) ← offset? (skipBlank t)
  guard (t.all Text.isBlank)
  let here : Instant := { year, month, day, hour, minute, second, nanosecond }
  guard here.isValid
  let there := here.addMinutes (-offset)
  guard there.isValid
  return there

end Stencil.Instant
