import EntitySearch.Time.Date

/-!
Moments of universal time, to the nanosecond. A leap second has no number of its own: its
moments carry the number of the second before it and a nanosecond count of a thousand million or
more, so they come after that second and before the next.
-/

namespace EntitySearch

structure Moment where
  /-- Seconds from the start of year 1, leap seconds not counted. -/
  second : Int
  nano : Nat
  nano_lt : nano < 2000000000 := by omega
  deriving DecidableEq

namespace Moment

def compare (a b : Moment) : Ordering :=
  (Ord.compare a.second b.second).then (Ord.compare a.nano b.nano)

/-- The first moment of a date. -/
def midnight (d : Date) : Moment := ⟨86400 * d.dayNumber, 0, by omega⟩

/-- The last nanosecond before a date; a leap second at its eve comes after it. -/
def lastBefore (d : Date) : Moment := ⟨86400 * d.dayNumber - 1, 999999999, by omega⟩

def date (t : Moment) : Date := Date.ofDayNumber (t.second / 86400)

/-- Seconds since midnight, a leap second as the one before it. -/
def secondOfDay (t : Moment) : Nat := (t.second % 86400).toNat

end Moment

end EntitySearch
