/-!
Dates of the Gregorian calendar, extended to all years, with a year 0 before year 1. Days are
numbered from 1 January of year 1, which is day 0.
-/

namespace EntitySearch

structure Date where
  year : Int
  month : Nat
  day : Nat
  deriving DecidableEq

namespace Date

def isLeap (year : Int) : Bool := year % 4 == 0 && (year % 100 != 0 || year % 400 == 0)

def daysInMonth (year : Int) (month : Nat) : Nat :=
  if month = 2 then (if isLeap year then 29 else 28)
  else if month = 4 ∨ month = 6 ∨ month = 9 ∨ month = 11 then 30
  else 31

/-- Days from the start of year 1 to the start of the year. -/
def daysBeforeYear (year : Int) : Int :=
  365 * (year - 1) + (year - 1) / 4 - (year - 1) / 100 + (year - 1) / 400

/-- Days from the start of the year to the start of the month. -/
def daysBeforeMonth (year : Int) (month : Nat) : Nat :=
  (List.range' 1 (month - 1)).foldl (fun days m => days + daysInMonth year m) 0

def dayNumber (d : Date) : Int :=
  daysBeforeYear d.year + daysBeforeMonth d.year d.month + d.day - 1

/-- The year that holds a day, by cycles of 400, 100, 4 and 1 years. -/
def yearOfDay (n : Int) : Int :=
  let inEra := n % 146097
  let century := min (inEra / 36524) 3
  let inCentury := inEra - 36524 * century
  let inCycle := inCentury % 1461
  400 * (n / 146097) + 100 * century + 4 * (inCentury / 1461) + min (inCycle / 365) 3 + 1

/-- Month and day of the `n`-th day (from 0) after the start of `month`, with at most `left`
months still to come. -/
def placeFrom (year : Int) : Nat → Nat → Nat → Nat × Nat
  | 0, month, n => (month, n + 1)
  | left + 1, month, n =>
    if n < daysInMonth year month then (month, n + 1)
    else placeFrom year left (month + 1) (n - daysInMonth year month)

def ofDayNumber (n : Int) : Date :=
  let year := yearOfDay n
  let (month, day) := placeFrom year 11 1 (n - daysBeforeYear year).toNat
  ⟨year, month, day⟩

def minYear : Int := -262143

def maxYear : Int := 262142

/-- A date that exists, in a year within the range of the calendar. -/
def ofParts? (year : Int) (month day : Nat) : Option Date :=
  if minYear ≤ year ∧ year ≤ maxYear ∧ 1 ≤ month ∧ month ≤ 12 ∧ 1 ≤ day ∧
      day ≤ daysInMonth year month then
    some ⟨year, month, day⟩
  else none

/-- The date with this number, if its year is within the range of the calendar. -/
def ofDayNumber? (n : Int) : Option Date :=
  let d := ofDayNumber n
  if minYear ≤ d.year ∧ d.year ≤ maxYear then some d else none

def next? (d : Date) : Option Date := ofDayNumber? (d.dayNumber + 1)

def previous? (d : Date) : Option Date := ofDayNumber? (d.dayNumber - 1)

end Date

end EntitySearch
