import EntitySearch.Proofs.Matcher
import EntitySearch.Proofs.Succession
import EntitySearch.Proofs.WrittenYear

/-!
What a criterion on a date is compiled to. A written date stands for its period as long as the
calendar goes on after it (`isReadAs_of_isWritten`), and a range of two dates for all that lies
between the start of the one and the end of the other (`Matcher.ofCriterion_range_of_plain`). No
text asks for a period that ends beyond the calendar (`Period.inCalendar_of_ofText?`).
-/

namespace EntitySearch

open Text

/-- Nanoseconds from the start of year 1, the leap seconds left out. -/
def Moment.nanosecond (t : Moment) : Int := 1000000000 * t.second + t.nano

/-- A date that exists, in a year of the calendar. -/
structure Date.InCalendar (d : Date) : Prop where
  valid : d.IsValid
  min_le : minYear ≤ d.year
  le_max : d.year ≤ maxYear

/-- The period ends a nanosecond before a midnight of the calendar, and not before it starts. -/
def Period.InCalendar (p : Period) : Prop :=
  ∃ start stop : Date, start.InCalendar ∧ stop.InCalendar ∧ p = .ofDates start stop ∧
    p.first.nanosecond ≤ p.last.nanosecond

section Reach

variable {today start stop : Date} {p : Period} {cs : List Char} {n : NamedPeriod}

theorem Period.inCalendar_ofDates (hstart : start.InCalendar) (hstop : stop.InCalendar)
    (hlt : start.dayNumber < stop.dayNumber) : (Period.ofDates start stop).InCalendar := by
  refine ⟨start, stop, hstart, hstop, rfl, ?_⟩
  simp only [ofDates, Moment.midnight, Moment.lastBefore, Moment.nanosecond]
  omega

theorem NamedPeriod.inCalendar_of_period? (hp : n.period? = some p) : p.InCalendar := by
  obtain ⟨⟨hfirst, hmin, hmax⟩, rfl⟩ := period?_iff.1 hp
  have hyear := n.year_after
  have hcovers : n.Covers n.first := by
    cases n <;> simp [Covers, first]
  have hlt : n.first.dayNumber < n.after.dayNumber :=
    ((covers_iff hfirst ((stop?_eq_some_iff hfirst hmin).2 ⟨rfl, hmax⟩) hfirst).1 hcovers).2
  exact Period.inCalendar_ofDates ⟨hfirst, hmin, Int.le_trans hyear.1 hmax⟩
    ⟨isValid_after hfirst, Int.le_trans hmin hyear.1, hmax⟩ hlt

/-- Every text of a period is one of the two words, or it names a year, a month or a day. -/
theorem Period.eq_of_ofText? (h : Period.ofText? today cs = some p) :
    (∃ stop, today.next? = some stop ∧ p = .ofDates today stop) ∨
      (∃ start, today.previous? = some start ∧ p = .ofDates start today) ∨
        ∃ n : NamedPeriod, n.period? = some p := by
  rw [ofText?] at h
  split_ifs at h with htoday hyesterday
  · obtain ⟨stop, hstop, h⟩ := Option.bind_eq_some_iff.1 h
    exact .inl ⟨stop, hstop, (Option.some.inj h).symm⟩
  · obtain ⟨start, hstart, h⟩ := Option.bind_eq_some_iff.1 h
    exact .inr (.inl ⟨start, hstart, (Option.some.inj h).symm⟩)
  · right; right
    split at h
    · obtain ⟨y, -, h⟩ := Option.bind_eq_some_iff.1 h
      exact ⟨.year (yearOfNumber y), h⟩
    · obtain ⟨y, -, h⟩ := Option.bind_eq_some_iff.1 h
      obtain ⟨m, -, h⟩ := Option.bind_eq_some_iff.1 h
      exact ⟨.month (yearOfNumber y) m, h⟩
    · obtain ⟨y, -, h⟩ := Option.bind_eq_some_iff.1 h
      obtain ⟨m, -, h⟩ := Option.bind_eq_some_iff.1 h
      obtain ⟨d, -, h⟩ := Option.bind_eq_some_iff.1 h
      exact ⟨.day (yearOfNumber y) m d, h⟩
    · contradiction

theorem Period.inCalendar_of_ofText? (htoday : today.InCalendar)
    (h : Period.ofText? today cs = some p) : p.InCalendar := by
  rcases Period.eq_of_ofText? h with ⟨stop, hstop, rfl⟩ | ⟨start, hstart, rfl⟩ | ⟨n, hn⟩
  · obtain ⟨hvalid, hnumber, hyear⟩ := Date.next?_eq_some_iff.1 hstop
    exact inCalendar_ofDates htoday ⟨hvalid, hyear.1, hyear.2⟩ (by omega)
  · obtain ⟨hvalid, hnumber, hyear⟩ := Date.previous?_eq_some_iff.1 hstart
    exact inCalendar_ofDates ⟨hvalid, hyear.1, hyear.2⟩ htoday (by omega)
  · exact NamedPeriod.inCalendar_of_period? hn

end Reach

section Reading

variable {today : Date} {key text : String} {p q : Period} {n : NamedPeriod}

/-- The date exists, and in the last year of the calendar so does the day after the period. -/
def NamedPeriod.IsInReach (n : NamedPeriod) : Prop :=
  n.first.IsValid ∧ (n.first.year = Date.maxYear → n.after.year = Date.maxYear)

/-- The text of a date is compiled to the period that it names, if it is in reach, and otherwise
refused. -/
structure IsReadAs (today : Date) (key text : String) (n : NamedPeriod) : Prop where
  accepted : n.IsInReach → ∃ p, n.period? = some p ∧
    Matcher.ofCriterion today key .moment (.plain text) = .ok [.ofPeriod p]
  refused : ¬ n.IsInReach →
    Matcher.ofCriterion today key .moment (.plain text) = .error (.criterionValue key text)

theorem isReadAs_of_isWritten (today : Date) (key : String) (htext : n.IsWritten text.toList)
    (hyear : n.first.year ≤ Date.maxYear) : IsReadAs today key text n := by
  have hnonneg := htext.year_nonneg
  have hmax : Date.maxYear = 262142 := rfl
  have hmin : Date.minYear ≤ n.first.year := Int.le_trans (by decide) hnonneg
  have hread : Period.ofText? today text.toList = n.period? := by
    rw [NamedPeriod.ofText?_eq htext, if_pos (by omega)]
  have hafter := n.year_after
  have hreach : n.IsInReach ↔ n.first.IsValid ∧ n.after.year ≤ Date.maxYear := by
    rw [NamedPeriod.IsInReach]
    refine and_congr_right fun _ => ?_
    omega
  constructor
  · intro h
    obtain ⟨hfirst, hstop⟩ := hreach.1 h
    have hp : n.period? = some (.ofDates n.first n.after) :=
      NamedPeriod.period?_iff.2 ⟨⟨hfirst, hmin, hstop⟩, rfl⟩
    exact ⟨_, hp, NamedPeriod.ofCriterion_eq_ok key htext (hread.trans hp)⟩
  · intro h
    have hnone : n.period? = none := by
      rw [Option.eq_none_iff_forall_ne_some]
      intro p hp
      obtain ⟨⟨hfirst, -, hstop⟩, -⟩ := NamedPeriod.period?_iff.1 hp
      exact h (hreach.2 ⟨hfirst, hstop⟩)
    exact NamedPeriod.ofCriterion_eq_error key htext (hread.trans hnone)

theorem Matcher.readSpan_of_ofCriterion
    (h : ofCriterion today key .moment (.plain text) = .ok [.ofPeriod p]) :
    readSpan today key .moment text = .ok (.moment p.first, .moment p.last) := by
  obtain ⟨m, hm, h⟩ := ofCriterion_plain_eq_ok_iff.1 h
  obtain ⟨⟨first, last⟩, hspan, rfl⟩ := (ofText_eq_ok_iff (by decide)).1 hm
  have hperiod : interval (some first) (some last) = ofPeriod p := (List.cons.inj h).1
  obtain ⟨hfirst, hlast⟩ := interval.inj hperiod
  rw [hspan, Option.some.inj hfirst, Option.some.inj hlast]

/-- A range goes from the start of the first period to the end of the second. -/
theorem Matcher.ofCriterion_range_of_plain {a b : String}
    (ha : ofCriterion today key .moment (.plain a) = .ok [.ofPeriod p])
    (hb : ofCriterion today key .moment (.plain b) = .ok [.ofPeriod q]) :
    ofCriterion today key .moment (.range (some a) (some b)) =
      .ok [.interval (some (.moment p.first)) (some (.moment q.last))] := by
  have hfirst : readBound today key .moment Prod.fst (some a) = .ok (some (.moment p.first)) :=
    readBound_some_eq_ok_iff.2 ⟨rfl, _, readSpan_of_ofCriterion ha, rfl⟩
  have hlast : readBound today key .moment Prod.snd (some b) = .ok (some (.moment q.last)) :=
    readBound_some_eq_ok_iff.2 ⟨rfl, _, readSpan_of_ofCriterion hb, rfl⟩
  rw [ofCriterion_range (by simp), hfirst, hlast]
  rfl

theorem NamedPeriod.IsWritten.ne_nil {cs : List Char} (h : n.IsWritten cs) : cs ≠ [] := by
  obtain ⟨parts, rfl, hparts⟩ := h
  have hcons : ∃ x xs, n.numbers = x :: xs := by
    cases n <;> exact ⟨_, _, rfl⟩
  obtain ⟨x, xs, hnumbers⟩ := hcons
  rw [hnumbers] at hparts
  obtain ⟨part, rest, i, rfl, hi, -, -⟩ := exists_cons_of_numerals hparts
  have hpart := (isDigit_of_nat? hi).1
  cases rest with
  | nil => simpa using hpart
  | cons next rest => simp [List.intercalate_cons_cons, hpart]

/-- Two dates with `..` between are a range, since no date has a dot or a backslash. -/
theorem Criterion.ofText_range {k : NamedPeriod} {a b : String} (ha : n.IsWritten a.toList)
    (hb : k.IsWritten b.toList) : Criterion.ofText (a ++ ".." ++ b) = .range (some a) (some b) := by
  have hdot : '.' ∉ a.toList := fun h => absurd (ha.isDateChar _ h) (by decide)
  have hslash : '\\' ∉ a.toList := fun h => absurd (ha.isDateChar _ h) (by decide)
  have hsplit : (a ++ ".." ++ b).toList = a.toList ++ (['.', '.'] ++ b.toList) := by
    simp
  have hbound {s : String} (hs : s.toList ≠ []) : bound s.toList = some s := by
    rw [bound, if_neg (by simpa using hs), String.ofList_toList]
  rw [Criterion.ofText, hsplit, cutBare?_of_plain_mark hslash hdot (by decide)]
  simp only [hbound ha.ne_nil, hbound hb.ne_nil]

end Reading

end EntitySearch
