import EntitySearch.Proofs.Period

/-!
What comes after a year, a month or a day. It is the first day of the next year, the first day of
the next month, which may lie in the next year, or the next day, which may lie in the next month
(`NamedPeriod.period?_iff`); a period that the calendar ends with has no such date and is refused.
-/

namespace EntitySearch

namespace Date

/-- The day after so many months of a year. -/
def afterMonths (year : Int) (months : Nat) : Date :=
  if months = 12 then ⟨year + 1, 1, 1⟩ else ⟨year, months + 1, 1⟩

/-- The day after so many days of a month. -/
def afterDays (year : Int) (month days : Nat) : Date :=
  if days = daysInMonth year month then afterMonths year month else ⟨year, month, days + 1⟩

section After

variable {y : Int} {m d : Nat} {e : Date}

theorem isValid_afterMonths (hm : m ≤ 12) : (afterMonths y m).IsValid := by
  rw [afterMonths]
  split
  · exact isValid_newYear (y + 1)
  · exact isValid_firstDay y (by omega)

theorem isValid_afterDays (hm : 1 ≤ m ∧ m ≤ 12) (hd : d ≤ daysInMonth y m) :
    (afterDays y m d).IsValid := by
  rw [afterDays]
  split
  · exact isValid_afterMonths hm.2
  · next hlast =>
    have hday : d + 1 ≤ daysInMonth y m := by omega
    exact ⟨hm.1, hm.2, Nat.le_add_left 1 d, hday⟩

theorem dayNumber_afterMonths (hm : 1 ≤ m ∧ m ≤ 12) :
    (afterMonths y m).dayNumber = daysBeforeYear y + daysBeforeMonth y m + daysInMonth y m := by
  have hmonth := daysBeforeMonth_succ y hm.1
  rw [afterMonths]
  split
  · next hlast =>
    -- The months of the year are over, and so are its days.
    have hlength : daysBeforeMonth y (m + 1) = yearLength y := by
      rw [hlast]
      exact daysBeforeMonth_thirteen y
    have hfirst : daysBeforeMonth (y + 1) 1 = 0 := rfl
    simp only [dayNumber, hfirst, daysBeforeYear_succ]
    omega
  · simp only [dayNumber, hmonth]
    omega

theorem dayNumber_afterDays (hm : 1 ≤ m ∧ m ≤ 12) :
    (afterDays y m d).dayNumber = dayNumber ⟨y, m, d⟩ + 1 := by
  rw [afterDays]
  split
  · next hlast =>
    rw [dayNumber_afterMonths hm, ← hlast]
    simp only [dayNumber]
    omega
  · simp only [dayNumber]
    omega

theorem year_afterMonths : y ≤ (afterMonths y m).year ∧ (afterMonths y m).year ≤ y + 1 := by
  rw [afterMonths]
  split
  · exact ⟨Int.le_add_one (Int.le_refl y), Int.le_refl _⟩
  · exact ⟨Int.le_refl y, Int.le_add_one (Int.le_refl y)⟩

theorem year_afterDays : y ≤ (afterDays y m d).year ∧ (afterDays y m d).year ≤ y + 1 := by
  rw [afterDays]
  split
  · exact year_afterMonths
  · exact ⟨Int.le_refl y, Int.le_add_one (Int.le_refl y)⟩

theorem next?_eq_some_iff_afterDays (hd : IsValid ⟨y, m, d⟩) (hmin : minYear ≤ y) :
    next? ⟨y, m, d⟩ = some e ↔ e = afterDays y m d ∧ (afterDays y m d).year ≤ maxYear := by
  have hmonth : 1 ≤ m ∧ m ≤ 12 := ⟨hd.one_le_month, hd.month_le⟩
  have hvalid : (afterDays y m d).IsValid := isValid_afterDays hmonth hd.day_le
  have hyear : y ≤ (afterDays y m d).year := year_afterDays.1
  rw [next?_eq_some_iff, ← dayNumber_afterDays hmonth]
  constructor
  · intro h
    obtain ⟨he, hnumber, -, hmax⟩ := h
    obtain rfl := (dayNumber_inj he hvalid).1 hnumber
    exact ⟨rfl, hmax⟩
  · intro h
    obtain ⟨rfl, hmax⟩ := h
    exact ⟨hvalid, rfl, Int.le_trans hmin hyear, hmax⟩

end After

end Date

namespace NamedPeriod

/-- The first day after the period, within the calendar or not. -/
def after : NamedPeriod → Date
  | .year y => ⟨y + 1, 1, 1⟩
  | .month y m => Date.afterMonths y m
  | .day y m d => Date.afterDays y m d

variable {n : NamedPeriod} {stop : Date} {p : Period}

theorem year_after : n.first.year ≤ n.after.year ∧ n.after.year ≤ n.first.year + 1 := by
  cases n with
  | year y => exact ⟨Int.le_add_one (Int.le_refl y), Int.le_refl _⟩
  | month y m => exact Date.year_afterMonths
  | day y m d => exact Date.year_afterDays

theorem isValid_after (h : n.first.IsValid) : n.after.IsValid := by
  cases n with
  | year y => exact Date.isValid_newYear (y + 1)
  | month y m => exact Date.isValid_afterMonths h.month_le
  | day y m d => exact Date.isValid_afterDays ⟨h.one_le_month, h.month_le⟩ h.day_le

theorem stop?_eq_some_iff (h : n.first.IsValid) (hmin : Date.minYear ≤ n.first.year) :
    n.stop? = some stop ↔ stop = n.after ∧ n.after.year ≤ Date.maxYear := by
  have hafter : n.after.IsValid := isValid_after h
  have hmin' : Date.minYear ≤ n.after.year := Int.le_trans hmin year_after.1
  -- Years and months are followed by a date that is put together from its parts.
  have hparts (a : Date) (ha : a.IsValid) (hmin : Date.minYear ≤ a.year) :
      Date.ofParts? a.year a.month a.day = some stop ↔ stop = a ∧ a.year ≤ Date.maxYear := by
    rw [Date.ofParts?_eq_some_iff]
    constructor
    · intro hstop
      obtain ⟨rfl, -, -, hmax⟩ := hstop
      exact ⟨rfl, hmax⟩
    · intro hstop
      obtain ⟨rfl, hmax⟩ := hstop
      exact ⟨rfl, ha, hmin, hmax⟩
  cases n with
  | year y => exact hparts ⟨y + 1, 1, 1⟩ hafter hmin'
  | month y m =>
    have hstop : stop? (.month y m) = Date.ofParts? (after (.month y m)).year
        (after (.month y m)).month (after (.month y m)).day := by
      rw [stop?, after, Date.afterMonths]
      split <;> rfl
    rw [hstop]
    exact hparts _ hafter hmin'
  | day y m d => exact Date.next?_eq_some_iff_afterDays h hmin

/-- A period goes from its first day to the day after it, both of which lie in the calendar. -/
theorem period?_iff :
    n.period? = some p ↔
      (n.first.IsValid ∧ Date.minYear ≤ n.first.year ∧ n.after.year ≤ Date.maxYear) ∧
        p = .ofDates n.first n.after := by
  rw [period?_eq_some_iff]
  constructor
  · intro hp
    obtain ⟨⟨hfirst, hmin, -⟩, stop, hstop, rfl⟩ := hp
    obtain ⟨rfl, hmax⟩ := (stop?_eq_some_iff hfirst hmin).1 hstop
    exact ⟨⟨hfirst, hmin, hmax⟩, rfl⟩
  · intro h
    obtain ⟨⟨hfirst, hmin, hmax⟩, rfl⟩ := h
    have hyear : n.first.year ≤ Date.maxYear := Int.le_trans year_after.1 hmax
    exact ⟨⟨hfirst, hmin, hyear⟩, n.after, (stop?_eq_some_iff hfirst hmin).2 ⟨rfl, hmax⟩, rfl⟩

end NamedPeriod

end EntitySearch
