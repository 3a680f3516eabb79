import Stencil.Text.Basic

/-!
Instants in universal time, as a calendar date and a time of day. A leap second is the second 60.
-/
namespace Stencil

structure Instant where
  year : Int
  month : Nat
  day : Nat
  hour : Nat
  minute : Nat
  second : Nat
  nanosecond : Nat
deriving DecidableEq

namespace Instant

-- The start of the year 1970.
def epoch : Instant := ⟨1970, 1, 1, 0, 0, 0, 0⟩

def minYear : Int := -262143

def maxYear : Int := 262142

def isLeapYear (year : Int) : Bool :=
  year % 4 = 0 && (year % 100 ≠ 0 || year % 400 = 0)

def daysIn (year : Int) (month : Nat) : Nat :=
  if month = 2 then (if isLeapYear year then 29 else 28)
  else if month = 4 || month = 6 || month = 9 || month = 11 then 30
  else 31

def isValid (i : Instant) : Bool :=
  minYear ≤ i.year && i.year ≤ maxYear && 1 ≤ i.month && i.month ≤ 12 && 1 ≤ i.day
    && i.day ≤ daysIn i.year i.month && i.hour < 24 && i.minute < 60 && i.second ≤ 60
    && i.nanosecond < Nat.pow 10 9

def nextDay (i : Instant) : Instant :=
  if i.day < daysIn i.year i.month then { i with day := i.day + 1 }
  else if i.month < 12 then { i with month := i.month + 1, day := 1 }
  else { i with year := i.year + 1, month := 1, day := 1 }

def previousDay (i : Instant) : Instant :=
  if 1 < i.day then { i with day := i.day - 1 }
  else if 1 < i.month then { i with month := i.month - 1, day := daysIn i.year (i.month - 1) }
  else { i with year := i.year - 1, month := 12, day := 31 }

-- The instant some minutes earlier or later, by less than a day.
def addMinutes (i : Instant) (minutes : Int) : Instant :=
  let total := 60 * (i.hour : Int) + i.minute + minutes
  let i := if total < 0 then i.previousDay else if 1440 ≤ total then i.nextDay else i
  let ofDay := (total % 1440).toNat
  { i with hour := ofDay / 60, minute := ofDay % 60 }

end Instant
end Stencil
