import Stencil.Time.Printer
import Stencil.Toml.Basic

/-!
Dates, times of day and both together. Reading gives the text in normal form: a `T` between date and
time, a capital `Z`, and no zeros at the end of a fraction, of which nine digits count.
-/
namespace Stencil.Toml.Moment

open Instant (padded)

-- A number of exactly `width` digits between two bounds.
def fixed? (width low high : Nat) (t : Text) : Option (Nat × Text) := do
  let digits := t.take width
  guard (digits.length = width && digits.all Char.isDigit)
  let n := Text.digitsValue digits
  guard (low ≤ n && n ≤ high)
  return (n, t.drop width)

def date? (t : Text) : Option (Text × Text) := do
  let (year, '-' :: t) ← fixed? 4 0 9999 t | none
  let (month, '-' :: t) ← fixed? 2 1 12 t | none
  let (day, t) ← fixed? 2 1 (Instant.daysIn year month) t
  return (padded 4 year ++ ['-'] ++ padded 2 month ++ ['-'] ++ padded 2 day, t)

-- Digits after a point, or nothing.
def fraction? : Text → Option (Text × Text)
  | '.' :: t =>
    let digits := t.takeWhile Char.isDigit
    let counted := Text.dropWhileEnd (· = '0') (digits.take 9)
    if digits = [] then none
    else some (if counted = [] then [] else '.' :: counted, t.dropWhile Char.isDigit)
  | t => some ([], t)

def time? (lastHour : Nat) (t : Text) : Option (Text × Text) := do
  let (hour, ':' :: t) ← fixed? 2 0 lastHour t | none
  let (minute, ':' :: t) ← fixed? 2 0 59 t | none
  let (second, t) ← fixed? 2 0 60 t
  let (fraction, t) ← fraction? t
  return (padded 2 hour ++ [':'] ++ padded 2 minute ++ [':'] ++ padded 2 second ++ fraction, t)

-- The offset of a time, or nothing. No offset at all is written with a plus.
def offset : Text → Text × Text
  | [] => ([], [])
  | c :: t =>
    let clock? := do
      let (hours, ':' :: t) ← fixed? 2 0 23 t | none
      let (minutes, t) ← fixed? 2 0 59 t
      let sign := if hours = 0 && minutes = 0 then '+' else c
      return (sign :: padded 2 hours ++ [':'] ++ padded 2 minutes, t)
    if c = 'Z' || c = 'z' then (['Z'], t)
    else if c = '+' || c = '-' then clock?.getD ([], c :: t)
    else ([], c :: t)

-- May the character stand between a date and a time?
def isSeparator (c : Char) : Bool :=
  c = 'T' || c = 't' || c = ' '

-- A time with its offset after a date, or nothing.
def timeAfterDate : Text → Text × Text
  | [] => ([], [])
  | c :: t =>
    match if isSeparator c then time? 23 t else none with
    | none => ([], c :: t)
    | some (time, t) =>
      let (offset, t) := offset t
      ('T' :: time ++ offset, t)

def read? (t : Text) : Option (Text × Text) :=
  match date? t with
  | some (date, t) =>
    let (time, t) := timeAfterDate t
    some (date ++ time, t)
  | none => time? 23 t

-- The offset at the end of a text, or nothing. Hours and minutes may be any that add up to no more
-- than a day.
def lastOffset? : Text → Option Text
  | [] => some []
  | ['Z'] | ['z'] => some ['Z']
  | sign :: t => do
    guard (sign = '+' || sign = '-')
    let (hours, ':' :: t) ← fixed? 2 0 99 t | none
    let (minutes, []) ← fixed? 2 0 99 t | none
    let total := 60 * hours + minutes
    guard (total ≤ 24 * 60)
    return (if total = 0 then '+' else sign) :: padded 2 (total / 60) ++ [':'] ++ padded 2 (total % 60)

-- A text that is a moment as a whole. Here a day may end at hour 24.
def ofText? (t : Text) : Option Text := do
  if t[2]? = some ':' then
    let (time, []) ← time? 24 t | none
    return time
  else
    match ← date? t with
    | (date, []) => return date
    | (date, c :: t) =>
      guard (isSeparator c)
      let (time, t) ← time? 24 t
      return date ++ ['T'] ++ time ++ (← lastOffset? t)

end Stencil.Toml.Moment
