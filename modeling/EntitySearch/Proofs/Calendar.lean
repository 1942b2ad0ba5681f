import EntitySearch.Time.Date
import Mathlib.Data.Int.Init
import Mathlib.Data.Nat.Init

/-!
The calendar. Dates that exist are numbered in their order (`dayNumber_lt_iff`), and every number
is that of the date that is worked out for it (`dayNumber_ofDayNumber`).
-/

namespace EntitySearch.Date

/-- A date that exists, in whichever year. -/
structure IsValid (d : Date) : Prop where
  one_le_month : 1 ≤ d.month
  month_le : d.month ≤ 12
  one_le_day : 1 ≤ d.day
  day_le : d.day ≤ daysInMonth d.year d.month

def Before (a b : Date) : Prop :=
  a.year < b.year ∨ a.year = b.year ∧
    (a.month < b.month ∨ a.month = b.month ∧ a.day < b.day)

def yearLength (year : Int) : Nat := if isLeap year then 366 else 365

section Years

theorem isLeap_iff {year : Int} :
    isLeap year = true ↔ year % 4 = 0 ∧ (year % 100 ≠ 0 ∨ year % 400 = 0) := by
  simp [isLeap]

theorem daysBeforeYear_succ (year : Int) :
    daysBeforeYear (year + 1) = daysBeforeYear year + yearLength year := by
  by_cases h : isLeap year
  · have := isLeap_iff.1 h
    rw [yearLength, if_pos h, daysBeforeYear, daysBeforeYear]
    omega
  · have := mt isLeap_iff.2 h
    rw [yearLength, if_neg h, daysBeforeYear, daysBeforeYear]
    omega

theorem daysBeforeYear_mono {y z : Int} (h : y ≤ z) : daysBeforeYear y ≤ daysBeforeYear z := by
  induction z, h using Int.leInduction with
  | base => exact Int.le_refl _
  | succ z _ ih =>
    rw [daysBeforeYear_succ]
    omega

section Cycles

variable (era : Int) {century cycle place : Int} (hcentury : 0 ≤ century ∧ century ≤ 3)
  (hcycle : 0 ≤ cycle ∧ cycle ≤ 24) (hplace : 0 ≤ place ∧ place ≤ 3)

include hcentury hcycle hplace

/-- The days before a year, by the cycles of 400, 100, 4 and 1 years that lie before it. -/
theorem daysBeforeYear_cycles :
    daysBeforeYear (400 * era + 100 * century + 4 * cycle + place + 1) =
      146097 * era + 36524 * century + 1461 * cycle + 365 * place := by
  rw [daysBeforeYear]
  omega

/-- The last year of a cycle of four is a leap year, unless it ends a century other than the last
of its era. -/
theorem isLeap_cycles_iff :
    isLeap (400 * era + 100 * century + 4 * cycle + place + 1) = true ↔
      place = 3 ∧ (cycle = 24 → century = 3) := by
  have hfour : (400 * era + 100 * century + 4 * cycle + place + 1) % 4 = 0 ↔ place = 3 := by
    omega
  rw [isLeap_iff, hfour]
  refine and_congr_right fun hlast => ?_
  omega

end Cycles

theorem yearOfDay_spec (n : Int) :
    daysBeforeYear (yearOfDay n) ≤ n ∧
      n < daysBeforeYear (yearOfDay n) + yearLength (yearOfDay n) := by
  let era := n / 146097
  let century := min (n % 146097 / 36524) 3
  let inCentury := n % 146097 - 36524 * century
  let cycle := inCentury / 1461
  let place := min (inCentury % 1461 / 365) 3
  have hyear : yearOfDay n = 400 * era + 100 * century + 4 * cycle + place + 1 := rfl
  have hcentury : 0 ≤ century ∧ century ≤ 3 := by omega
  -- The last century of an era is a day longer than the others.
  have hlength : 0 ≤ inCentury ∧ inCentury < 36524 + century / 3 := by omega
  have hcycle : 0 ≤ cycle ∧ cycle ≤ 24 := by omega
  have hplace : 0 ≤ place ∧ place ≤ 3 := by omega
  have hdays := daysBeforeYear_cycles era hcentury hcycle hplace
  have hleap := isLeap_cycles_iff era hcentury hcycle hplace
  have hn : n = 146097 * era + 36524 * century + 1461 * cycle + inCentury % 1461 := by omega
  rw [hyear, hdays]
  refine ⟨by omega, ?_⟩
  rw [yearLength]
  split
  · omega
  · next h =>
    rw [hleap] at h
    have hshort : inCentury % 1461 < 1460 ∨ place < 3 := by omega
    omega

end Years

section Months

theorem daysBeforeMonth_succ (year : Int) {month : Nat} (h : 1 ≤ month) :
    daysBeforeMonth year (month + 1) = daysBeforeMonth year month + daysInMonth year month := by
  obtain ⟨m, rfl⟩ := Nat.exists_eq_add_of_le' h
  simp only [daysBeforeMonth, Nat.add_sub_cancel, List.range'_1_concat, List.foldl_append,
    List.foldl_cons, List.foldl_nil, Nat.add_comm 1 m]

theorem daysBeforeMonth_mono (year : Int) {m n : Nat} (hm : 1 ≤ m) (h : m ≤ n) :
    daysBeforeMonth year m ≤ daysBeforeMonth year n := by
  induction n, h using Nat.le_induction with
  | base => exact Nat.le_refl _
  | succ n hn ih =>
    rw [daysBeforeMonth_succ year (Nat.le_trans hm hn)]
    omega

theorem daysBeforeMonth_thirteen (year : Int) : daysBeforeMonth year 13 = yearLength year := by
  rw [yearLength]
  by_cases h : isLeap year <;> simp [daysBeforeMonth, daysInMonth, h, List.range']

theorem daysInMonth_bounds (year : Int) (month : Nat) :
    28 ≤ daysInMonth year month ∧ daysInMonth year month ≤ 31 := by
  rw [daysInMonth]
  split
  · split <;> omega
  · split <;> omega

/-- Month and day of a place within the months that may still come. -/
theorem placeFrom_spec {year : Int} {left month n m d : Nat} (hmonth : 1 ≤ month)
    (h : daysBeforeMonth year month + n < daysBeforeMonth year (month + left + 1))
    (hplace : placeFrom year left month n = (m, d)) :
    (month ≤ m ∧ m ≤ month + left) ∧ (1 ≤ d ∧ d ≤ daysInMonth year m) ∧
      daysBeforeMonth year m + d = daysBeforeMonth year month + n + 1 := by
  have hsucc := daysBeforeMonth_succ year hmonth
  induction left generalizing month n with
  | zero =>
    obtain ⟨rfl, rfl⟩ := Prod.mk.inj hplace
    rw [Nat.add_zero, hsucc] at h
    omega
  | succ left ih =>
    rw [placeFrom] at hplace
    split at hplace
    · obtain ⟨rfl, rfl⟩ := Prod.mk.inj hplace
      omega
    · have hlast : month + 1 + left + 1 = month + (left + 1) + 1 := by omega
      have hrest : daysBeforeMonth year (month + 1) + (n - daysInMonth year month) <
          daysBeforeMonth year (month + 1 + left + 1) := by
        rw [hlast]
        omega
      have := ih (Nat.le_add_left 1 month) hrest hplace
        (daysBeforeMonth_succ year (Nat.le_add_left 1 month))
      omega

end Months

section Order

variable {a b d : Date}

theorem IsValid.dayOfYear_le (h : d.IsValid) :
    daysBeforeMonth d.year d.month + d.day ≤ yearLength d.year := by
  have hlast := daysBeforeMonth_mono d.year (Nat.le_add_left 1 d.month)
    (Nat.succ_le_succ h.month_le)
  rw [daysBeforeMonth_succ d.year h.one_le_month, daysBeforeMonth_thirteen] at hlast
  have := h.day_le
  omega

theorem dayNumber_lt_of_before (ha : a.IsValid) (hb : b.IsValid) (h : a.Before b) :
    a.dayNumber < b.dayNumber := by
  rcases h with hyear | ⟨hyear, hmonth | ⟨hmonth, hday⟩⟩
  · have hyears := daysBeforeYear_mono (Int.add_one_le_of_lt hyear)
    rw [daysBeforeYear_succ] at hyears
    have := ha.dayOfYear_le
    have := hb.one_le_day
    rw [dayNumber, dayNumber]
    omega
  · have hmonths := daysBeforeMonth_mono a.year (Nat.le_add_left 1 a.month) hmonth
    rw [daysBeforeMonth_succ a.year ha.one_le_month] at hmonths
    have := ha.day_le
    have := hb.one_le_day
    rw [dayNumber, dayNumber, ← hyear]
    omega
  · rw [dayNumber, dayNumber, ← hyear, ← hmonth]
    omega

theorem before_trichotomy (a b : Date) : a.Before b ∨ a = b ∨ b.Before a := by
  obtain ⟨y, m, d⟩ := a
  obtain ⟨y', m', d'⟩ := b
  simp only [Before, Date.mk.injEq]
  omega

theorem dayNumber_lt_iff (ha : a.IsValid) (hb : b.IsValid) :
    a.dayNumber < b.dayNumber ↔ a.Before b := by
  constructor
  · intro h
    rcases before_trichotomy a b with hab | rfl | hba
    · exact hab
    · exact absurd h (Int.lt_irrefl _)
    · exact absurd h (Int.lt_asymm (dayNumber_lt_of_before hb ha hba))
  · exact dayNumber_lt_of_before ha hb

theorem dayNumber_inj (ha : a.IsValid) (hb : b.IsValid) :
    a.dayNumber = b.dayNumber ↔ a = b := by
  constructor
  · intro h
    rcases before_trichotomy a b with hab | hab | hba
    · exact absurd h (Int.ne_of_lt (dayNumber_lt_of_before ha hb hab))
    · exact hab
    · exact absurd h (Int.ne_of_gt (dayNumber_lt_of_before hb ha hba))
  · exact congrArg dayNumber

end Order

section Numbers

theorem ofDayNumber_spec (n : Int) : (ofDayNumber n).IsValid ∧ (ofDayNumber n).dayNumber = n := by
  let year := yearOfDay n
  obtain ⟨hle, hlt⟩ : daysBeforeYear year ≤ n ∧ n < daysBeforeYear year + yearLength year :=
    yearOfDay_spec n
  let place := (n - daysBeforeYear year).toNat
  have hfirst : daysBeforeMonth year 1 = 0 := rfl
  have hinYear : daysBeforeMonth year 1 + place < daysBeforeMonth year 13 := by
    rw [hfirst, daysBeforeMonth_thirteen]
    omega
  rcases hplace : placeFrom year 11 1 place with ⟨m, d⟩
  have hdate : ofDayNumber n = ⟨year, m, d⟩ := by
    change (⟨year, (placeFrom year 11 1 place).1, (placeFrom year 11 1 place).2⟩ : Date) = _
    rw [hplace]
  obtain ⟨hmonth, hday, hnumber⟩ := placeFrom_spec (Nat.le_refl 1) hinYear hplace
  rw [hdate]
  refine ⟨⟨hmonth.1, hmonth.2, hday.1, hday.2⟩, ?_⟩
  change daysBeforeYear year + daysBeforeMonth year m + d - 1 = n
  omega

theorem isValid_ofDayNumber (n : Int) : (ofDayNumber n).IsValid := (ofDayNumber_spec n).1

theorem dayNumber_ofDayNumber (n : Int) : (ofDayNumber n).dayNumber = n := (ofDayNumber_spec n).2

end Numbers

section Range

variable {d e : Date}

theorem ofParts?_eq_some_iff {year : Int} {month day : Nat} :
    ofParts? year month day = some d ↔
      d = ⟨year, month, day⟩ ∧ d.IsValid ∧ minYear ≤ year ∧ year ≤ maxYear := by
  rw [ofParts?]
  constructor
  · intro h
    split at h
    · next hparts =>
      obtain ⟨hmin, hmax, hmonth, hmonth', hday, hday'⟩ := hparts
      obtain rfl := Option.some.inj h
      exact ⟨rfl, ⟨hmonth, hmonth', hday, hday'⟩, hmin, hmax⟩
    · contradiction
  · intro h
    obtain ⟨rfl, hvalid, hmin, hmax⟩ := h
    exact if_pos ⟨hmin, hmax, hvalid.one_le_month, hvalid.month_le, hvalid.one_le_day,
      hvalid.day_le⟩

theorem ofDayNumber?_eq_some_iff {k : Int} :
    ofDayNumber? k = some e ↔
      e.IsValid ∧ e.dayNumber = k ∧ minYear ≤ e.year ∧ e.year ≤ maxYear := by
  simp only [ofDayNumber?]
  constructor
  · intro h
    split at h
    · next hyear =>
      obtain rfl := Option.some.inj h
      exact ⟨isValid_ofDayNumber _, dayNumber_ofDayNumber _, hyear⟩
    · contradiction
  · intro h
    obtain ⟨hvalid, hnumber, hyear⟩ := h
    have he : ofDayNumber k = e := by
      rw [← dayNumber_inj (isValid_ofDayNumber _) hvalid, dayNumber_ofDayNumber, hnumber]
    rw [he]
    exact if_pos hyear

theorem next?_eq_some_iff :
    d.next? = some e ↔
      e.IsValid ∧ e.dayNumber = d.dayNumber + 1 ∧ minYear ≤ e.year ∧ e.year ≤ maxYear :=
  ofDayNumber?_eq_some_iff

theorem previous?_eq_some_iff :
    d.previous? = some e ↔
      e.IsValid ∧ e.dayNumber = d.dayNumber - 1 ∧ minYear ≤ e.year ∧ e.year ≤ maxYear :=
  ofDayNumber?_eq_some_iff

theorem isValid_firstDay (year : Int) {month : Nat} (hmonth : 1 ≤ month ∧ month ≤ 12) :
    IsValid ⟨year, month, 1⟩ := by
  have hlength : 1 ≤ daysInMonth year month :=
    Nat.le_trans (by decide) (daysInMonth_bounds year month).1
  exact ⟨hmonth.1, hmonth.2, Nat.le_refl 1, hlength⟩

theorem isValid_newYear (year : Int) : IsValid ⟨year, 1, 1⟩ := isValid_firstDay year (by decide)

/-- The day after a date lies in its year or on the first day of the next. -/
theorem exists_next? (hd : d.IsValid) (hmin : minYear ≤ d.year) (hmax : d.year < maxYear) :
    ∃ e, d.next? = some e := by
  let e := ofDayNumber (d.dayNumber + 1)
  have he : e.IsValid := isValid_ofDayNumber _
  have hnumber : e.dayNumber = d.dayNumber + 1 := dayNumber_ofDayNumber _
  have hafter : d.Before e := by
    rw [← dayNumber_lt_iff hd he]
    omega
  have hnewYear : d.Before ⟨d.year + 1, 1, 1⟩ := .inl (Int.lt_succ d.year)
  have hnot : ¬ Before ⟨d.year + 1, 1, 1⟩ e := by
    rw [← dayNumber_lt_iff hd (isValid_newYear _)] at hnewYear
    rw [← dayNumber_lt_iff (isValid_newYear _) he]
    omega
  refine ⟨e, next?_eq_some_iff.2 ⟨he, hnumber, ?_⟩⟩
  simp only [Before] at hafter hnot
  omega

end Range

end EntitySearch.Date
