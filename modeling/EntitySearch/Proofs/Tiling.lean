import EntitySearch.Proofs.DateReading
import Mathlib.Data.List.Range

/-!
Periods share out the calendar. Those that are cut at the same dates follow one another without a
gap (`Period.tile_ofDates`), so that the months tile their year and the days their month, and the
numbers of the dates say where a period lies (`NamedPeriod.isPlaced_of_period?`). With what written
dates and ranges of them are compiled to, this is `NamedPeriod.tile_calendar`.
-/

namespace EntitySearch

open Text

namespace Period

/-- The second period starts one nanosecond after the first has ended. -/
def Meets (p q : Period) : Prop := q.first.nanosecond = p.last.nanosecond + 1

/-- The parts follow one another without a gap, from the start of the whole to its end. -/
structure Tile (parts : List Period) (whole : Period) : Prop where
  meet : parts.IsChain Meets
  first : parts.head?.map Period.first = some whole.first
  last : parts.getLast?.map Period.last = some whole.last

theorem meets_ofDates (a b c : Date) : Meets (ofDates a b) (ofDates b c) := by
  simp only [Meets, ofDates, Moment.midnight, Moment.lastBefore, Moment.nanosecond]
  omega

/-- Periods from each of some dates to the next. -/
theorem tile_ofDates (start : Nat → Date) {n : Nat} (hn : 0 < n) :
    Tile ((List.range n).map fun i => ofDates (start i) (start (i + 1)))
      (ofDates (start 0) (start n)) := by
  have hne : n ≠ 0 := Nat.ne_of_gt hn
  have hlast : n - 1 + 1 = n := Nat.sub_add_cancel hn
  constructor
  · rw [List.isChain_map, List.isChain_range]
    intro i _
    exact meets_ofDates ..
  · rw [List.head?_map, List.head?_range, if_neg hne]
    rfl
  · rw [List.getLast?_map, List.getLast?_range, if_neg hne, Option.map_some, Option.map_some, hlast]
    rfl

/-- The period goes from the first second of one date to the last nanosecond before another, as
the numbers of the two days place them. -/
structure IsPlaced (p : Period) (start stop : Date) : Prop where
  second_first : p.first.second = 86400 * start.dayNumber
  nano_first : p.first.nano = 0
  second_last : p.last.second = 86400 * stop.dayNumber - 1
  nano_last : p.last.nano = 999999999

end Period

namespace NamedPeriod

/-- All the periods exist, and the parts tile the whole. -/
def Tile (parts : List NamedPeriod) (whole : NamedPeriod) : Prop :=
  ∃ ps p, parts.map period? = ps.map some ∧ whole.period? = some p ∧ Period.Tile ps p

def months (y : Int) : List NamedPeriod := (List.range 12).map fun i => .month y (i + 1)

def days (y : Int) (m : Nat) : List NamedPeriod :=
  (List.range (Date.daysInMonth y m)).map fun i => .day y m (i + 1)

theorem tile_of_starts {part : Nat → NamedPeriod} {whole : NamedPeriod} (start : Nat → Date)
    {n : Nat} (hn : 0 < n)
    (hparts : ∀ i < n, (part i).period? = some (.ofDates (start i) (start (i + 1))))
    (hwhole : whole.period? = some (.ofDates (start 0) (start n))) :
    Tile ((List.range n).map part) whole := by
  refine ⟨_, _, ?_, hwhole, Period.tile_ofDates start hn⟩
  rw [List.map_map, List.map_map]
  apply List.map_congr_left
  intro i hi
  exact hparts i (List.mem_range.1 hi)

section Year

variable {y : Int} {m : Nat} {n : NamedPeriod}

theorem period?_of_lt (hfirst : n.first.IsValid) (hmin : Date.minYear ≤ n.first.year)
    (hmax : n.first.year < Date.maxYear) : n.period? = some (.ofDates n.first n.after) := by
  have hafter : n.after.year ≤ n.first.year + 1 := year_after.2
  exact period?_iff.2 ⟨⟨hfirst, hmin, Int.le_trans hafter hmax⟩, rfl⟩

variable (hmin : Date.minYear ≤ y) (hmax : y < Date.maxYear)

include hmin hmax

theorem tile_months : Tile (months y) (.year y) := by
  apply tile_of_starts (Date.afterMonths y) (by decide)
  · intro i hi
    have hstart : Date.afterMonths y i = ⟨y, i + 1, 1⟩ := if_neg (Nat.ne_of_lt hi)
    have hfirst : Date.IsValid ⟨y, i + 1, 1⟩ := Date.isValid_firstDay y (by omega)
    rw [hstart]
    exact period?_of_lt (n := .month y (i + 1)) hfirst hmin hmax
  · exact period?_of_lt (n := .year y) (Date.isValid_newYear y) hmin hmax

theorem tile_days (hm : 1 ≤ m ∧ m ≤ 12) : Tile (days y m) (.month y m) := by
  have hlength : 0 < Date.daysInMonth y m :=
    Nat.lt_of_lt_of_le (by decide) (Date.daysInMonth_bounds y m).1
  apply tile_of_starts (Date.afterDays y m) hlength
  · intro i hi
    have hstart : Date.afterDays y m i = ⟨y, m, i + 1⟩ := if_neg (Nat.ne_of_lt hi)
    have hfirst : Date.IsValid ⟨y, m, i + 1⟩ := ⟨hm.1, hm.2, Nat.le_add_left 1 i, hi⟩
    rw [hstart]
    exact period?_of_lt (n := .day y m (i + 1)) hfirst hmin hmax
  · have hstart : Date.afterDays y m 0 = ⟨y, m, 1⟩ := if_neg (Nat.ne_of_lt hlength)
    have hstop : Date.afterDays y m (Date.daysInMonth y m) = Date.afterMonths y m := if_pos rfl
    rw [hstart, hstop]
    exact period?_of_lt (n := .month y m) (Date.isValid_firstDay y hm) hmin hmax

end Year

theorem isPlaced_of_period? {n : NamedPeriod} {p : Period} (hp : n.period? = some p) :
    p.IsPlaced n.first n.after := by
  obtain ⟨-, rfl⟩ := period?_iff.1 hp
  exact ⟨rfl, rfl, rfl, rfl⟩

/-- The second period follows the first without a gap. -/
def Follows (n k : NamedPeriod) : Prop :=
  ∃ p q, n.period? = some p ∧ k.period? = some q ∧ p.Meets q

theorem follows_year {y : Int} (hmin : Date.minYear ≤ y) (hmax : y + 1 < Date.maxYear) :
    Follows (.year y) (.year (y + 1)) := by
  have hyear : y < Date.maxYear := Int.lt_trans (Int.lt_succ y) hmax
  have hnext : Date.minYear ≤ y + 1 := Int.le_add_one hmin
  exact ⟨_, _, period?_of_lt (n := .year y) (Date.isValid_newYear y) hmin hyear,
    period?_of_lt (n := .year (y + 1)) (Date.isValid_newYear (y + 1)) hnext hmax,
    Period.meets_ofDates ..⟩

end NamedPeriod

/-- The lengths of the months, January first. -/
def Date.gregorianLengths (y : Int) : List Nat :=
  [31, if y % 4 = 0 ∧ (y % 100 ≠ 0 ∨ y % 400 = 0) then 29 else 28, 31, 30, 31, 30, 31, 31, 30, 31,
    30, 31]

theorem Date.map_daysInMonth (y : Int) :
    (List.range' 1 12).map (daysInMonth y) = gregorianLengths y := by
  by_cases h : isLeap y
  · rw [gregorianLengths, if_pos (isLeap_iff.1 h)]
    simp [List.range', daysInMonth, h]
  · rw [gregorianLengths, if_neg (mt isLeap_iff.2 h)]
    simp [List.range', daysInMonth, h]

/-- The months of the year and the days of each month follow one another without a gap. -/
structure IsLaidOut (y : Int) : Prop where
  lengths : (List.range' 1 12).map (Date.daysInMonth y) = Date.gregorianLengths y
  months : NamedPeriod.Tile (NamedPeriod.months y) (.year y)
  days : ∀ m, 1 ≤ m ∧ m ≤ 12 → NamedPeriod.Tile (NamedPeriod.days y m) (.month y m)

/-- Years, months and days share out the calendar. A written date stands for its period if it is
in reach, no period ends beyond the calendar, and a range of dates goes from the start of the first
to the end of the second. Where a period lies is told by the numbers of its first day and of the
first day after it. -/
theorem NamedPeriod.tile_calendar {today : Date} (htoday : today.InCalendar) (key : String) :
    (∀ y, 0 ≤ y ∧ y ≤ 262141 →
      IsLaidOut y ∧ (y + 1 ≤ 262141 → Follows (.year y) (.year (y + 1)))) ∧
    (∀ n text, IsWritten n text.toList → n.first.year ≤ Date.maxYear →
      IsReadAs today key text n) ∧
    (∀ cs p, Period.ofText? today cs = some p → p.InCalendar) ∧
    (∀ y start, Date.ofParts? y 1 1 = some start → y + 1 < 2 ^ 31) ∧
    (∀ a b p q, Matcher.ofCriterion today key .moment (.plain a) = .ok [.ofPeriod p] →
      Matcher.ofCriterion today key .moment (.plain b) = .ok [.ofPeriod q] →
      Matcher.ofCriterion today key .moment (.range (some a) (some b)) =
        .ok [.interval (some (.moment p.first)) (some (.moment q.last))]) ∧
    (∀ n k a b, IsWritten n a.toList → IsWritten k b.toList →
      Criterion.ofText (a ++ ".." ++ b) = .range (some a) (some b)) ∧
    ∀ (n : NamedPeriod) p, n.period? = some p → p.IsPlaced n.first n.after := by
  have hmax : Date.maxYear = 262142 := rfl
  refine ⟨?_, ?_, ?_, ?_, ?_, ?_, ?_⟩
  · intro y hy
    have hmin : Date.minYear ≤ y := Int.le_trans (by decide) hy.1
    have hlast : y < Date.maxYear := by omega
    exact ⟨⟨Date.map_daysInMonth y, tile_months hmin hlast, fun m => tile_days hmin hlast⟩,
      fun hnext => follows_year hmin (by omega)⟩
  · intro n text
    exact isReadAs_of_isWritten today key
  · intro cs p
    exact Period.inCalendar_of_ofText? htoday
  · intro y start hstart
    obtain ⟨-, -, -, hyear⟩ := Date.ofParts?_eq_some_iff.1 hstart
    omega
  · intro a b p q
    exact Matcher.ofCriterion_range_of_plain
  · intro n k a b
    exact Criterion.ofText_range
  · intro n p
    exact isPlaced_of_period?

/-- The 29 days of February 2016 share out the month, and a 30th is refused. -/
theorem NamedPeriod.tile_calendar_leapMonth :
    Date.InCalendar ⟨2024, 6, 15⟩ ∧
      Tile ((List.range 29).map fun i => .day 2016 2 (i + 1)) (.month 2016 2) ∧
      Matcher.ofCriterion ⟨2024, 6, 15⟩ "creation_time" .moment (.plain "2016-02-30") =
        .error (.criterionValue "creation_time" "2016-02-30") := by
  have htoday : Date.InCalendar ⟨2024, 6, 15⟩ := by
    constructor
    · constructor <;> decide
    · decide
    · decide
  obtain ⟨hyears, hread, -⟩ := tile_calendar htoday "creation_time"
  have htext : IsWritten (.day 2016 2 30) "2016-02-30".toList :=
    ⟨["2016".toList, "02".toList, "30".toList], rfl, rfl⟩
  have hreach : ¬ IsInReach (.day 2016 2 30) := by
    intro h
    exact absurd h.1.day_le (by decide)
  exact ⟨htoday, (hyears 2016 (by decide)).1.days 2 (by decide),
    (hread _ _ htext (by decide)).refused hreach⟩

end EntitySearch
