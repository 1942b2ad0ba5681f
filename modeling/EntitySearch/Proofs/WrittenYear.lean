import EntitySearch.Proofs.DateCriterion
import Mathlib.Algebra.Group.Int.Defs

/-!
The year of a written date. It is read in 32 bits and then taken as a signed number, so that the
last numbers below `2 ^ 32` stand for years before year 0. Of all written years only these are not
kept (`NamedPeriod.keepsYear_iff`): every other one is the year of the period, or is refused.
-/

namespace EntitySearch

/-- All moments of the period lie in the year. -/
structure Period.LiesIn (p : Period) (y : Int) : Prop where
  first : p.first.date.year = y
  moments : ∀ t, (Matcher.ofPeriod p).accepts (.moment t) = true → t.date.year = y

/-- The text is refused or asks for a period of the year, and it is refused in any case when the
year is beyond the calendar. -/
structure KeepsYear (today : Date) (key text : String) (y : Int) : Prop where
  liesIn : ∀ ms, Matcher.ofCriterion today key .moment (.plain text) = .ok ms →
    ∃ p, ms = [.ofPeriod p] ∧ p.LiesIn y
  refused : y < Date.minYear ∨ Date.maxYear < y →
    Matcher.ofCriterion today key .moment (.plain text) = .error (.criterionValue key text)

theorem Moment.date_midnight {d : Date} (hd : d.IsValid) : (Moment.midnight d).date = d := by
  have hday : 86400 * d.dayNumber / 86400 = d.dayNumber := by omega
  rw [← Date.dayNumber_inj (Moment.isValid_date _) hd, Moment.dayNumber_date]
  exact hday

theorem Matcher.ofPeriod_inj {p q : Period} : ofPeriod p = ofPeriod q ↔ p = q := by
  cases p
  cases q
  simp [ofPeriod]

namespace NamedPeriod

variable {n : NamedPeriod} {p : Period} {cs : List Char} {today : Date} {key text : String}

theorem liesIn_of_period? (hp : n.period? = some p) : p.LiesIn n.first.year := by
  constructor
  · obtain ⟨⟨hfirst, -⟩, stop, -, rfl⟩ := period?_eq_some_iff.1 hp
    exact congrArg Date.year (Moment.date_midnight hfirst)
  · intro t ht
    exact ((accepts_iff hp).1 ht).1.year_eq

theorem period?_eq_none_of_le (z : Int)
    (h : UInt32.size ≤ n.first.month ∨ UInt32.size ≤ n.first.day) :
    (n.inYear z).period? = none := by
  have hmonth : (n.inYear z).first.month = n.first.month := by cases n <;> rfl
  have hday : (n.inYear z).first.day = n.first.day := by cases n <;> rfl
  rw [Option.eq_none_iff_forall_ne_some]
  intro p hp
  obtain ⟨⟨hfirst, -⟩, -⟩ := period?_eq_some_iff.1 hp
  have hmonth' := hfirst.month_lt
  have hday' := hfirst.day_lt
  omega

/-- What a written date is read as, whether it exists or not: a year in the upper half of the
words of 32 bits is moved back by `2 ^ 32` years. -/
theorem ofText?_eq (h : n.IsWritten cs) :
    Period.ofText? today cs =
      if n.first.year < 2 ^ 31 then n.period?
      else if n.first.year < 2 ^ 32 then (n.inYear (n.first.year - 2 ^ 32)).period?
      else none := by
  have hnonneg := h.year_nonneg
  have hsize : UInt32.size = 2 ^ 32 := rfl
  rw [ofText?_of_numerals h]
  by_cases hfits : n.first.month < UInt32.size ∧ n.first.day < UInt32.size
  · simp only [hfits.1, hfits.2, and_true]
    by_cases hlower : n.first.year < 2 ^ 31
    · have hbmod : n.first.year.bmod UInt32.size = n.first.year := by
        apply Int.bmod_eq_of_le <;> omega
      rw [if_pos (by omega), if_pos hlower, hbmod, inYear_first]
    · rw [if_neg hlower]
      by_cases hword : n.first.year < 2 ^ 32
      · have hmod : n.first.year % UInt32.size = n.first.year := by
          apply Int.emod_eq_of_lt <;> omega
        have hbmod : n.first.year.bmod UInt32.size = n.first.year - 2 ^ 32 := by
          rw [Int.bmod_def, hmod]
          split <;> omega
        rw [if_pos (by omega), if_pos hword, hbmod]
      · rw [if_neg (by omega), if_neg hword]
  · -- Numbers that do not fit are refused, and no month or day has such a number.
    have hlarge : UInt32.size ≤ n.first.month ∨ UInt32.size ≤ n.first.day := by omega
    have hself : n.period? = none := inYear_first (n := n) ▸ period?_eq_none_of_le _ hlarge
    rw [if_neg (fun hall => hfits hall.2), hself, period?_eq_none_of_le _ hlarge, ite_self, ite_self]

theorem ofCriterion_eq_ok (key : String) (htext : n.IsWritten text.toList)
    (h : Period.ofText? today text.toList = some p) :
    Matcher.ofCriterion today key .moment (.plain text) = .ok [.ofPeriod p] := by
  rw [Matcher.ofCriterion_of_dateChars today key htext.isDateChar, h]

theorem ofCriterion_eq_error (key : String) (htext : n.IsWritten text.toList)
    (h : Period.ofText? today text.toList = none) :
    Matcher.ofCriterion today key .moment (.plain text) = .error (.criterionValue key text) := by
  rw [Matcher.ofCriterion_of_dateChars today key htext.isDateChar, h]

theorem keepsYear_of_none (key : String) (htext : n.IsWritten text.toList)
    (h : Period.ofText? today text.toList = none) : KeepsYear today key text n.first.year := by
  have herror := ofCriterion_eq_error key htext h
  constructor
  · intro ms hms
    rw [herror] at hms
    contradiction
  · intro _
    exact herror

theorem keepsYear_of_period? (key : String) (htext : n.IsWritten text.toList)
    (hread : Period.ofText? today text.toList = n.period?) :
    KeepsYear today key text n.first.year := by
  cases hp : n.period? with
  | none => exact keepsYear_of_none key htext (hread.trans hp)
  | some p =>
    have hok := ofCriterion_eq_ok key htext (hread.trans hp)
    constructor
    · intro ms hms
      rw [hok] at hms
      obtain rfl := Except.ok.inj hms
      exact ⟨p, rfl, liesIn_of_period? hp⟩
    · intro hyear
      obtain ⟨⟨-, hmin, hmax⟩, -⟩ := period?_eq_some_iff.1 hp
      omega

/-- The written year is kept unless the date exists `2 ^ 32` years before it, where the upper half
of the words of 32 bits is read. -/
theorem keepsYear_iff (today : Date) (key : String) (htext : n.IsWritten text.toList) :
    (KeepsYear today key text n.first.year ↔
      (n.first.year < 2 ^ 32 → (n.inYear (n.first.year - 2 ^ 32)).period? = none)) ∧
    ∀ p, n.first.year < 2 ^ 32 → (n.inYear (n.first.year - 2 ^ 32)).period? = some p →
      Matcher.ofCriterion today key .moment (.plain text) = .ok [.ofPeriod p] := by
  have hread : Period.ofText? today text.toList = _ := ofText?_eq htext
  -- No period is that early, so that a date which exists there was written in the upper half.
  have hupper {p : Period} (hp : (n.inYear (n.first.year - 2 ^ 32)).period? = some p) :
      ¬ n.first.year < 2 ^ 31 := by
    obtain ⟨⟨-, hmin, -⟩, -⟩ := period?_eq_some_iff.1 hp
    rw [first_inYear, Date.minYear] at hmin
    omega
  have hmoved {p : Period} (hword : n.first.year < 2 ^ 32)
      (hp : (n.inYear (n.first.year - 2 ^ 32)).period? = some p) :
      Matcher.ofCriterion today key .moment (.plain text) = .ok [.ofPeriod p] := by
    rw [if_neg (hupper hp), if_pos hword, hp] at hread
    exact ofCriterion_eq_ok key htext hread
  refine ⟨⟨?_, ?_⟩, fun p => hmoved⟩
  · intro hkeeps hword
    rw [Option.eq_none_iff_forall_ne_some]
    intro p hp
    obtain ⟨q, hq, hlies⟩ := hkeeps.liesIn _ (hmoved hword hp)
    obtain rfl := Matcher.ofPeriod_inj.1 (List.cons.inj hq).1
    have hyear := (liesIn_of_period? hp).first
    rw [first_inYear, hlies.first] at hyear
    omega
  · intro hnone
    split_ifs at hread with hlower hword
    · exact keepsYear_of_period? key htext hread
    · exact keepsYear_of_none key htext (hread.trans (hnone hword))
    · exact keepsYear_of_none key htext hread

/-- The last number that is moved back to a year before the calendar is refused. -/
theorem keepsYear_iff_refused :
    IsWritten (.month 4294705152 12) "4294705152-12".toList ∧
      KeepsYear ⟨2024, 6, 15⟩ "creation_time" "4294705152-12" 4294705152 := by
  have htext : IsWritten (.month 4294705152 12) "4294705152-12".toList :=
    ⟨["4294705152".toList, "12".toList], rfl, rfl⟩
  have hnone : (inYear (4294705152 - 2 ^ 32) (.month 4294705152 12)).period? = none := by decide
  exact ⟨htext, (keepsYear_iff ⟨2024, 6, 15⟩ "creation_time" htext).1.2 fun _ => hnone⟩

/-- The largest number of 32 bits is read as the year before year 0. -/
theorem not_keepsYear_lastWord :
    IsWritten (.year 4294967295) "4294967295".toList ∧
      (∃ p, Matcher.ofCriterion ⟨2024, 6, 15⟩ "creation_time" .moment (.plain "4294967295") =
        .ok [.ofPeriod p] ∧ p.LiesIn (-1)) ∧
      ¬ KeepsYear ⟨2024, 6, 15⟩ "creation_time" "4294967295" 4294967295 := by
  have htext : IsWritten (.year 4294967295) "4294967295".toList :=
    ⟨["4294967295".toList], rfl, rfl⟩
  have hperiod : period? (.year (-1)) = some (.ofDates ⟨-1, 1, 1⟩ ⟨0, 1, 1⟩) := rfl
  have hok : Matcher.ofCriterion ⟨2024, 6, 15⟩ "creation_time" .moment (.plain "4294967295") =
      .ok [.ofPeriod (.ofDates ⟨-1, 1, 1⟩ ⟨0, 1, 1⟩)] := by
    apply ofCriterion_eq_ok _ htext
    rw [ofText?_eq htext]
    exact hperiod
  refine ⟨htext, ⟨_, hok, liesIn_of_period? hperiod⟩, ?_⟩
  intro hkeeps
  rw [hkeeps.refused (.inr (by decide))] at hok
  contradiction

end NamedPeriod

end EntitySearch
