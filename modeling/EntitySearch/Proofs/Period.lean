import EntitySearch.Matcher
import EntitySearch.Proofs.Calendar
import EntitySearch.Proofs.Comparison

/-!
Periods of the calendar. The moments from the first midnight of a year, a month or a day to the
last nanosecond before the next are those whose date lies in it (`NamedPeriod.accepts_iff`), with
one gap: a leap second before the next period comes after that nanosecond.
-/

namespace EntitySearch

namespace Moment

def IsLeap (t : Moment) : Prop := 1000000000 ≤ t.nano

/-- The date of the second that comes after a moment and its leap second, if there is one. -/
def dateAfter (t : Moment) : Date := Date.ofDayNumber ((t.second + 1) / 86400)

theorem isLE_compare_iff {a b : Moment} :
    (a.compare b).isLE = true ↔ a.second < b.second ∨ a.second = b.second ∧ a.nano ≤ b.nano := by
  rw [compare, Ordering.isLE_then_iff_or, Int.compare_eq_lt, Int.compare_eq_eq, Nat.isLE_compare]

theorem dayNumber_date (t : Moment) : t.date.dayNumber = t.second / 86400 :=
  Date.dayNumber_ofDayNumber _

theorem dayNumber_dateAfter (t : Moment) : t.dateAfter.dayNumber = (t.second + 1) / 86400 :=
  Date.dayNumber_ofDayNumber _

theorem isValid_date (t : Moment) : t.date.IsValid := Date.isValid_ofDayNumber _

theorem isValid_dateAfter (t : Moment) : t.dateAfter.IsValid := Date.isValid_ofDayNumber _

end Moment

/-- The moments of a period. -/
def Matcher.ofPeriod (p : Period) : Matcher :=
  .interval (some (.moment p.first)) (some (.moment p.last))

/-- From the start of one date to the start of another there are the moments of the dates between,
but for the leap second before the end. -/
theorem Matcher.accepts_ofPeriod_iff {start stop : Date} {p : Period}
    (hp : p = .ofDates start stop) {t : Moment} :
    (Matcher.ofPeriod p).accepts (.moment t) = true ↔
      (start.dayNumber ≤ t.date.dayNumber ∧ t.date.dayNumber < stop.dayNumber) ∧
        (t.IsLeap → t.dateAfter.dayNumber < stop.dayNumber) := by
  have haccepts : (Matcher.ofPeriod p).accepts (.moment t) =
      ((t.compare p.first).isGE && (t.compare p.last).isLE) := rfl
  rw [haccepts, Bool.and_eq_true, Std.OrientedCmp.isGE_iff_isLE, Moment.isLE_compare_iff,
    Moment.isLE_compare_iff, Moment.dayNumber_date, Moment.dayNumber_dateAfter]
  simp only [hp, Period.ofDates, Moment.midnight, Moment.lastBefore, Moment.IsLeap]
  omega

/-- A year, a month or a day of the calendar. -/
inductive NamedPeriod
  | year (y : Int)
  | month (y : Int) (m : Nat)
  | day (y : Int) (m d : Nat)

namespace NamedPeriod

def first : NamedPeriod → Date
  | .year y => ⟨y, 1, 1⟩
  | .month y m => ⟨y, m, 1⟩
  | .day y m d => ⟨y, m, d⟩

/-- The date lies in the period. -/
def Covers : NamedPeriod → Date → Prop
  | .year y, a => a.year = y
  | .month y m, a => a.year = y ∧ a.month = m
  | .day y m d, a => a.year = y ∧ a.month = m ∧ a.day = d

def numbers : NamedPeriod → List Int
  | .year y => [y]
  | .month y m => [y, m]
  | .day y m d => [y, m, d]

def inYear (z : Int) : NamedPeriod → NamedPeriod
  | .year _ => .year z
  | .month _ m => .month z m
  | .day _ m d => .day z m d

def period? : NamedPeriod → Option Period
  | .year y => Period.ofYear? y
  | .month y m => Period.ofMonth? y m
  | .day y m d => Period.ofDay? y m d

/-- The first date after the period. -/
def stop? : NamedPeriod → Option Date
  | .year y => Date.ofParts? (y + 1) 1 1
  | .month y m => if m = 12 then Date.ofParts? (y + 1) 1 1 else Date.ofParts? y (m + 1) 1
  | .day y m d => Date.next? ⟨y, m, d⟩

section Meaning

variable {n : NamedPeriod} {a stop : Date} {p : Period}

theorem first_inYear (z : Int) : (n.inYear z).first.year = z := by
  cases n <;> rfl

theorem inYear_first : n.inYear n.first.year = n := by
  cases n <;> rfl

theorem Covers.year_eq (h : n.Covers a) : a.year = n.first.year := by
  cases n with
  | year y => exact h
  | month y m => exact h.1
  | day y m d => exact h.1

theorem period?_eq_some_iff :
    n.period? = some p ↔
      (n.first.IsValid ∧ Date.minYear ≤ n.first.year ∧ n.first.year ≤ Date.maxYear) ∧
        ∃ stop, n.stop? = some stop ∧ p = .ofDates n.first stop := by
  have hbind (y : Int) (m d : Nat) (f : Date → Option Period) :
      (Date.ofParts? y m d).bind f = some p ↔
        (Date.IsValid ⟨y, m, d⟩ ∧ Date.minYear ≤ y ∧ y ≤ Date.maxYear) ∧
          f ⟨y, m, d⟩ = some p := by
    simp only [Option.bind_eq_some_iff, Date.ofParts?_eq_some_iff, and_assoc, exists_eq_left]
  have hend (o : Option Date) :
      (o.bind fun stop => some (Period.ofDates n.first stop)) = some p ↔
        ∃ stop, o = some stop ∧ p = .ofDates n.first stop := by
    simp only [Option.bind_eq_some_iff, Option.some.injEq, @eq_comm _ _ p]
  cases n with
  | year y =>
    refine (hbind y 1 1 _).trans (and_congr_right fun _ => ?_)
    exact hend (Date.ofParts? (y + 1) 1 1)
  | month y m =>
    refine (hbind y m 1 _).trans (and_congr_right fun _ => ?_)
    simp only [stop?]
    split
    · exact hend (Date.ofParts? (y + 1) 1 1)
    · exact hend (Date.ofParts? y (m + 1) 1)
  | day y m d =>
    refine (hbind y m d _).trans (and_congr_right fun _ => ?_)
    exact hend (Date.next? ⟨y, m, d⟩)

/-- The dates of the period are those from its first up to the first after it. -/
theorem covers_iff (hfirst : n.first.IsValid) (hstop : n.stop? = some stop) (ha : a.IsValid) :
    n.Covers a ↔ n.first.dayNumber ≤ a.dayNumber ∧ a.dayNumber < stop.dayNumber := by
  have := ha.one_le_month
  have := ha.month_le
  have := ha.one_le_day
  -- For dates that exist, the order of the numbers is the order of years, months and days.
  have hbetween (hstop : stop.IsValid) :
      n.first.dayNumber ≤ a.dayNumber ∧ a.dayNumber < stop.dayNumber ↔
        ¬ a.Before n.first ∧ a.Before stop := by
    rw [← Int.not_lt, Date.dayNumber_lt_iff ha hfirst, Date.dayNumber_lt_iff ha hstop]
  cases n with
  | year y =>
    obtain ⟨rfl, hstop, -⟩ := Date.ofParts?_eq_some_iff.1 hstop
    rw [hbetween hstop]
    simp only [Covers, first, Date.Before]
    omega
  | month y m =>
    rw [stop?] at hstop
    split at hstop
    · obtain ⟨rfl, hstop, -⟩ := Date.ofParts?_eq_some_iff.1 hstop
      rw [hbetween hstop]
      simp only [Covers, first, Date.Before]
      omega
    · obtain ⟨rfl, hstop, -⟩ := Date.ofParts?_eq_some_iff.1 hstop
      rw [hbetween hstop]
      simp only [Covers, first, Date.Before]
      omega
  | day y m d =>
    obtain ⟨-, hnumber, -⟩ := Date.next?_eq_some_iff.1 hstop
    have hday : Date.IsValid ⟨y, m, d⟩ := hfirst
    have hcovers : Covers (.day y m d) a ↔ a.dayNumber = Date.dayNumber ⟨y, m, d⟩ := by
      rw [Date.dayNumber_inj ha hday]
      obtain ⟨y', m', d'⟩ := a
      simp only [Covers, Date.mk.injEq]
    rw [hcovers, hnumber, first]
    omega

theorem exists_stop? (hfirst : n.first.IsValid) (hmin : Date.minYear ≤ n.first.year)
    (hmax : n.first.year < Date.maxYear) : ∃ stop, n.stop? = some stop := by
  have hnext : Date.minYear ≤ n.first.year + 1 := by omega
  cases n with
  | year y =>
    exact ⟨_, Date.ofParts?_eq_some_iff.2 ⟨rfl, Date.isValid_newYear (y + 1), hnext, hmax⟩⟩
  | month y m =>
    rw [stop?]
    split
    · exact ⟨_, Date.ofParts?_eq_some_iff.2 ⟨rfl, Date.isValid_newYear (y + 1), hnext, hmax⟩⟩
    · next hm =>
      have hmonth : m ≤ 12 := hfirst.month_le
      have hvalid : Date.IsValid ⟨y, m + 1, 1⟩ := Date.isValid_firstDay y (by omega)
      exact ⟨_, Date.ofParts?_eq_some_iff.2 ⟨rfl, hvalid, hmin, Int.le_of_lt hmax⟩⟩
  | day y m d => exact Date.exists_next? hfirst hmin hmax

theorem exists_period? (hfirst : n.first.IsValid) (hmin : Date.minYear ≤ n.first.year)
    (hmax : n.first.year < Date.maxYear) : ∃ p, n.period? = some p := by
  obtain ⟨stop, hstop⟩ := exists_stop? hfirst hmin hmax
  exact ⟨_, period?_eq_some_iff.2 ⟨⟨hfirst, hmin, Int.le_of_lt hmax⟩, stop, hstop, rfl⟩⟩

/-- A moment suits the period of its date, a leap second only when the second after it lies in the
period as well. -/
theorem accepts_iff (hp : n.period? = some p) {t : Moment} :
    (Matcher.ofPeriod p).accepts (.moment t) = true ↔
      n.Covers t.date ∧ (t.IsLeap → n.Covers t.dateAfter) := by
  obtain ⟨⟨hfirst, -⟩, stop, hstop, hp⟩ := period?_eq_some_iff.1 hp
  have hle : t.date.dayNumber ≤ t.dateAfter.dayNumber := by
    rw [Moment.dayNumber_date, Moment.dayNumber_dateAfter]
    omega
  rw [Matcher.accepts_ofPeriod_iff hp, covers_iff hfirst hstop t.isValid_date,
    covers_iff hfirst hstop t.isValid_dateAfter]
  refine and_congr_right fun hdate => forall_congr' fun _ => ?_
  omega

end Meaning

end NamedPeriod

end EntitySearch
