import EntitySearch.Number.Numeral
import EntitySearch.Text.Blank
import EntitySearch.Time.Moment

/-!
Periods of the calendar: a year, a month or a day, as the moments from its first midnight to the
last nanosecond before the next period.
-/

namespace EntitySearch

open Text Number

structure Period where
  first : Moment
  last : Moment
  deriving DecidableEq

namespace Period

/-- From the start of one date to the start of another. -/
def ofDates (start stop : Date) : Period := ⟨.midnight start, .lastBefore stop⟩

/-- A number below `2 ^ 32`, with an optional plus sign. -/
def number? (cs : List Char) : Option Nat :=
  (unsigned? cs).filter (· < UInt32.size)

/-- The year that a number stands for: from `2 ^ 31` on it counts down from `2 ^ 32`. -/
def yearOfNumber (n : Nat) : Int := Int.bmod n UInt32.size

def ofYear? (year : Int) : Option Period := do
  let start ← Date.ofParts? year 1 1
  let stop ← Date.ofParts? (year + 1) 1 1
  some (ofDates start stop)

def ofMonth? (year : Int) (month : Nat) : Option Period := do
  let start ← Date.ofParts? year month 1
  let stop ← if month = 12 then Date.ofParts? (year + 1) 1 1 else Date.ofParts? year (month + 1) 1
  some (ofDates start stop)

def ofDay? (year : Int) (month day : Nat) : Option Period := do
  let start ← Date.ofParts? year month day
  some (ofDates start (← start.next?))

/-- `YYYY`, `YYYY-MM`, `YYYY-MM-DD`, or one of the words `today` and `yesterday`. -/
def ofText? (today : Date) (cs : List Char) : Option Period := do
  if cs = "today".toList then
    some (ofDates today (← today.next?))
  else if cs = "yesterday".toList then
    some (ofDates (← today.previous?) today)
  else match cs.splitOn '-' with
    | [y] => ofYear? (yearOfNumber (← number? y))
    | [y, m] => ofMonth? (yearOfNumber (← number? y)) (← number? m)
    | [y, m, d] => ofDay? (yearOfNumber (← number? y)) (← number? m) (← number? d)
    | _ => none

end Period

end EntitySearch
