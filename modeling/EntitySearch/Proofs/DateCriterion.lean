import EntitySearch.Time.Timestamp
import EntitySearch.Proofs.Listing
import EntitySearch.Proofs.Period
import EntitySearch.Proofs.Query

/-!
Dates as criteria. A year, a month or a day written in digits asks for the moments that lie in it
(`isMet_date_iff`), the leap second before the next period excepted.
-/

namespace EntitySearch

open Text Number

/-- The number that a text of digits writes. -/
def numeral? (part : List Char) : Option Int := (nat? part).map Int.ofNat

/-- The numbers in digits, with minus signs between. -/
def NamedPeriod.IsWritten (n : NamedPeriod) (cs : List Char) : Prop :=
  ∃ parts, cs = ['-'].intercalate parts ∧ parts.map numeral? = n.numbers.map some

section Characters

/-- A digit or the mark between the numbers of a date. -/
def IsDateChar (c : Char) : Prop := c.isDigit = true ∨ c = '-'

instance (c : Char) : Decidable (IsDateChar c) := inferInstanceAs (Decidable (_ ∨ _))

variable {c : Char} {cs : List Char}

theorem IsDateChar.toNat_mem (h : IsDateChar c) : 45 ≤ c.toNat ∧ c.toNat ≤ 57 := by
  rcases h with h | rfl
  · have htoNat : c.val.toNat = c.toNat := rfl
    simp only [Char.isDigit, Char.reduceVal, ge_iff_le, UInt32.le_iff_toNat_le,
      UInt32.reduceToNat, htoNat, Bool.and_eq_true, decide_eq_true_eq] at h
    omega
  · decide

theorem IsDateChar.not_blank (h : IsDateChar c) : isBlank c = false := by
  have := h.toNat_mem
  have hblank : ¬ isBlank c = true := by
    simp only [isBlank, Bool.or_eq_true, Bool.and_eq_true, decide_eq_true_eq, beq_iff_eq]
    omega
  simpa using hblank

theorem IsDateChar.not_upper (h : IsDateChar c) : c.isUpper = false := by
  have := h.toNat_mem
  rw [isUpper_eq_false_iff]
  omega

theorem trim_of_dateChars (h : ∀ c ∈ cs, IsDateChar c) : trim cs = cs := by
  apply trim_of_not_blank
  rw [List.any_eq_false]
  intro c hc
  simp [(h c hc).not_blank]

theorem lowerAscii_of_dateChars (h : ∀ c ∈ cs, IsDateChar c) : lowerAscii cs = cs := by
  have hlower : ∀ c ∈ cs, c.toLower = id c := by
    intro c hc
    exact toLower_of_not_upper (h c hc).not_upper
  rw [lowerAscii, List.map_congr_left hlower, List.map_id]

theorem ne_of_dateChars {word : List Char} {c : Char} (hc : c ∈ word) (hnot : ¬ IsDateChar c)
    (h : ∀ c ∈ cs, IsDateChar c) : cs ≠ word := by
  rintro rfl
  exact hnot (h c hc)

end Characters

theorem Date.IsValid.month_lt {d : Date} (h : d.IsValid) : d.month < UInt32.size :=
  Nat.lt_of_le_of_lt h.month_le (by decide)

theorem Date.IsValid.day_lt {d : Date} (h : d.IsValid) : d.day < UInt32.size := by
  have hlast := (Date.daysInMonth_bounds d.year d.month).2
  exact Nat.lt_of_le_of_lt (Nat.le_trans h.day_le hlast) (by decide)

section Numerals

theorem mem_intercalate {α : Type} {c mark : α} {parts : List (List α)}
    (h : c ∈ [mark].intercalate parts) : c = mark ∨ ∃ part ∈ parts, c ∈ part := by
  induction parts with
  | nil => contradiction
  | cons part parts ih =>
    cases parts with
    | nil =>
      rw [List.intercalate_singleton] at h
      exact .inr ⟨part, List.mem_singleton_self part, h⟩
    | cons next parts =>
      rw [List.intercalate_cons_cons, List.append_assoc, List.mem_append, List.mem_append,
        List.mem_singleton] at h
      rcases h with h | h | h
      · exact .inr ⟨part, List.mem_cons_self .., h⟩
      · exact .inl h
      · refine (ih h).imp id ?_
        rintro ⟨other, hother, hc⟩
        exact ⟨other, List.mem_cons_of_mem _ hother, hc⟩

variable {part : List Char} {i : Nat}

theorem isDigit_of_nat? (h : nat? part = some i) : part ≠ [] ∧ ∀ c ∈ part, c.isDigit = true := by
  rw [nat?] at h
  split at h
  · contradiction
  · next hdigits => simpa using hdigits

theorem unsigned?_of_nat? (h : nat? part = some i) : unsigned? part = some i := by
  obtain ⟨hne, hdigits⟩ := isDigit_of_nat? h
  obtain ⟨c, cs, rfl⟩ := List.exists_cons_of_ne_nil hne
  have hplus : c ≠ '+' := by
    rintro rfl
    exact absurd (hdigits '+' (List.mem_cons_self ..)) (by decide)
  rw [unsigned?, h]
  intro _ hcons
  exact hplus (List.cons.inj hcons).1

theorem exists_cons_of_numerals {parts : List (List Char)} {x : Int} {xs : List Int}
    (h : parts.map numeral? = (x :: xs).map some) :
    ∃ part rest i, parts = part :: rest ∧ nat? part = some i ∧ i = x ∧
      rest.map numeral? = xs.map some := by
  obtain ⟨part, rest, rfl, hpart, hrest⟩ := List.map_eq_cons_iff.1 h
  obtain ⟨i, hi, hx⟩ := Option.map_eq_some_iff.1 hpart
  exact ⟨part, rest, i, rfl, hi, hx, hrest⟩

/-- The numbers of a date are read in 32 bits. -/
theorem number?_bind_of_nat? (h : nat? part = some i) (f : Nat → Option Period) :
    (Period.number? part >>= f) = if i < UInt32.size then f i else none := by
  by_cases hi : i < UInt32.size
  · rw [if_pos hi, Period.number?, unsigned?_of_nat? h, Option.filter_some,
      if_pos (decide_eq_true hi)]
    rfl
  · rw [if_neg hi, Period.number?, unsigned?_of_nat? h, Option.filter_some,
      if_neg (mt of_decide_eq_true hi)]
    rfl

end Numerals

namespace NamedPeriod

variable {n : NamedPeriod} {cs : List Char} {today : Date}

theorem isDigit_of_numerals {parts : List (List Char)}
    (h : parts.map numeral? = n.numbers.map some) :
    ∀ part ∈ parts, ∀ c ∈ part, c.isDigit = true := by
  intro part hpart
  have hmem : numeral? part ∈ n.numbers.map some := by
    rw [← h]
    exact List.mem_map_of_mem hpart
  obtain ⟨i, -, hi⟩ := List.mem_map.1 hmem
  obtain ⟨k, hk, -⟩ := Option.map_eq_some_iff.1 hi.symm
  exact (isDigit_of_nat? hk).2

theorem IsWritten.isDateChar (h : n.IsWritten cs) : ∀ c ∈ cs, IsDateChar c := by
  obtain ⟨parts, rfl, hparts⟩ := h
  intro c hc
  rcases mem_intercalate hc with rfl | ⟨part, hpart, hc⟩
  · exact .inr rfl
  · exact .inl (isDigit_of_numerals hparts part hpart c hc)

theorem splitOn_of_numerals {parts : List (List Char)}
    (h : parts.map numeral? = n.numbers.map some) :
    (['-'].intercalate parts).splitOn '-' = parts := by
  apply List.splitOn_intercalate
  · intro part hpart hminus
    exact absurd (isDigit_of_numerals h part hpart '-' hminus) (by decide)
  · rintro rfl
    cases n <;> contradiction

/-- What the text of a date is read as: numbers beyond 32 bits are refused, and years from
`2 ^ 31` on become negative. -/
theorem ofText?_of_numerals (h : n.IsWritten cs) :
    Period.ofText? today cs =
      if n.first.year.toNat < UInt32.size ∧ n.first.month < UInt32.size ∧
        n.first.day < UInt32.size then (n.inYear (n.first.year.bmod UInt32.size)).period?
      else none := by
  have htoday : cs ≠ "today".toList := by
    exact ne_of_dateChars (c := 't') (by decide) (by decide) h.isDateChar
  have hyesterday : cs ≠ "yesterday".toList := by
    exact ne_of_dateChars (c := 'y') (by decide) (by decide) h.isDateChar
  have hone : 1 < UInt32.size := by decide
  obtain ⟨parts, rfl, hparts⟩ := h
  rw [Period.ofText?, if_neg htoday, if_neg hyesterday, splitOn_of_numerals hparts]
  cases n with
  | year y =>
    obtain ⟨a, _, i, rfl, hi, rfl, hrest⟩ := exists_cons_of_numerals hparts
    obtain rfl := List.map_eq_nil_iff.1 hrest
    simp only [number?_bind_of_nat? hi, Int.toNat_natCast, first, hone, and_true]
    rfl
  | month y m =>
    obtain ⟨a, _, i, rfl, hi, rfl, hrest⟩ := exists_cons_of_numerals hparts
    obtain ⟨b, _, j, rfl, hj, hm, hrest⟩ := exists_cons_of_numerals hrest
    obtain rfl := List.map_eq_nil_iff.1 hrest
    obtain rfl := Int.ofNat.inj hm
    simp only [number?_bind_of_nat? hi, number?_bind_of_nat? hj, Int.toNat_natCast, first, hone,
      and_true]
    rw [ite_and]
    rfl
  | day y m d =>
    obtain ⟨a, _, i, rfl, hi, rfl, hrest⟩ := exists_cons_of_numerals hparts
    obtain ⟨b, _, j, rfl, hj, hm, hrest⟩ := exists_cons_of_numerals hrest
    obtain ⟨c, _, k, rfl, hk, hd, hrest⟩ := exists_cons_of_numerals hrest
    obtain rfl := List.map_eq_nil_iff.1 hrest
    obtain rfl := Int.ofNat.inj hm
    obtain rfl := Int.ofNat.inj hd
    simp only [number?_bind_of_nat? hi, number?_bind_of_nat? hj, number?_bind_of_nat? hk,
      Int.toNat_natCast, first]
    change _ = if i < UInt32.size ∧ j < UInt32.size ∧ k < UInt32.size then _ else none
    rw [ite_and, ite_and]
    rfl

theorem ofText?_of_isWritten (hfirst : n.first.IsValid) (h : n.IsWritten cs) :
    Period.ofText? today cs =
      if n.first.year.toNat < UInt32.size then (n.inYear (n.first.year.bmod UInt32.size)).period?
      else none := by
  rw [ofText?_of_numerals h]
  simp only [hfirst.month_lt, hfirst.day_lt, and_true]

theorem IsWritten.year_nonneg (h : n.IsWritten cs) : 0 ≤ n.first.year := by
  obtain ⟨parts, -, hparts⟩ := h
  have hcons : ∃ xs, n.numbers = n.first.year :: xs := by
    cases n <;> exact ⟨_, rfl⟩
  obtain ⟨xs, hcons⟩ := hcons
  rw [hcons] at hparts
  obtain ⟨-, -, i, -, -, hi, -⟩ := exists_cons_of_numerals hparts
  omega

theorem ofText?_eq_period? (hfirst : n.first.IsValid) (h : n.IsWritten cs)
    (hyear : n.first.year ≤ Date.maxYear) : Period.ofText? today cs = n.period? := by
  have hnonneg := h.year_nonneg
  have hmax : Date.maxYear = 262142 := rfl
  have hsize : UInt32.size = 4294967296 := rfl
  have hbmod : n.first.year.bmod UInt32.size = n.first.year := by
    apply Int.bmod_eq_of_le <;> omega
  rw [ofText?_of_isWritten hfirst h, if_pos (by omega), hbmod, inYear_first]

/-- A year beyond the calendar is refused, or it stands for a year before year 0. -/
theorem exists_inYear_of_ofText? (hfirst : n.first.IsValid) (h : n.IsWritten cs)
    (hyear : Date.maxYear < n.first.year) {p : Period} (hp : Period.ofText? today cs = some p) :
    ∃ z < 0, (n.inYear z).period? = some p := by
  have hmax : Date.maxYear = 262142 := rfl
  have hsize : UInt32.size = 4294967296 := rfl
  rw [ofText?_of_isWritten hfirst h] at hp
  split at hp
  · next hlt =>
    obtain ⟨⟨-, -, hle⟩, -⟩ := period?_eq_some_iff.1 hp
    rw [first_inYear] at hle
    have hbmod : n.first.year.bmod UInt32.size = n.first.year ∨
        n.first.year.bmod UInt32.size = n.first.year - UInt32.size := by
      have hmod : n.first.year % UInt32.size = n.first.year := by
        apply Int.emod_eq_of_lt <;> omega
      rw [Int.bmod_def, hmod]
      split
      · exact .inl rfl
      · exact .inr rfl
    exact ⟨_, by omega, hp⟩
  · contradiction

end NamedPeriod

section Criterion

variable {α O C : Type} [Key C] {S : Schema α O C} {today : Date} {k : C} {text : String}
  {n : NamedPeriod}

theorem Matcher.ofCriterion_of_dateChars (today : Date) (key : String)
    (h : ∀ c ∈ text.toList, IsDateChar c) :
    Matcher.ofCriterion today key .moment (.plain text) =
      match Period.ofText? today text.toList with
      | none => .error (.criterionValue key text)
      | some p => .ok [.ofPeriod p] := by
  have hescape : '\\' ∉ text.toList := by
    intro hmem
    exact absurd (h _ hmem) (by decide)
  simp only [Matcher.ofCriterion, Matcher.ofText, Matcher.readSpan, unescape?_of_plain hescape,
    ValueKind.span?, readPeriod?, trim_of_dateChars h, lowerAscii_of_dateChars h]
  cases Period.ofText? today text.toList with
  | none => rfl
  | some p => rfl

theorem Requirement.isMet_of_dateChars (hkind : S.kind k = .moment)
    (h : ∀ c ∈ text.toList, IsDateChar c) {a : α} {t : Moment} (ht : S.values a k = [.moment t]) :
    Requirement.IsMet S today ⟨k, .plain text, false⟩ a ↔
      ∃ p, Period.ofText? today text.toList = some p ∧
        (Matcher.ofPeriod p).accepts (.moment t) = true := by
  simp only [Requirement.IsMet, hkind, Matcher.ofCriterion_of_dateChars today _ h, ht,
    List.mem_singleton, exists_eq_left, iff_true]
  cases Period.ofText? today text.toList with
  | none => simp
  | some p => simp

/-- The text of a date that exists has a meaning as long as the calendar goes on for a year after
it, and it asks for the moments whose date lies in the period. A leap second is found only where
the period goes on after it. -/
theorem Requirement.isMet_date_iff (S : Schema α O C) (today : Date) (hkind : S.kind k = .moment)
    (hfirst : n.first.IsValid) (htext : n.IsWritten text.toList) :
    (n.first.year < Date.maxYear →
      ∃ test, Test.ofRequirement S today ⟨k, .plain text, false⟩ = .ok test) ∧
    ∀ (a : α) (t : Moment), S.values a k = [.moment t] →
      0 ≤ t.date.year ∧ t.date.year < Date.maxYear →
        (Requirement.IsMet S today ⟨k, .plain text, false⟩ a ↔
          n.Covers t.date ∧ (t.IsLeap → n.Covers t.dateAfter)) := by
  have hmin : Date.minYear ≤ n.first.year := by
    have := htext.year_nonneg
    rw [Date.minYear]
    omega
  constructor
  · intro hyear
    obtain ⟨p, hp⟩ := NamedPeriod.exists_period? hfirst hmin hyear
    have hread : Period.ofText? today text.toList = n.period? :=
      NamedPeriod.ofText?_eq_period? hfirst htext (Int.le_of_lt hyear)
    have hmatchers := Matcher.ofCriterion_of_dateChars today (Key.name k) htext.isDateChar
    rw [hread, hp, ← hkind] at hmatchers
    exact ⟨_, Outcome.bind_eq_ok_iff.2 ⟨_, hmatchers, rfl⟩⟩
  · intro a t ht hyear
    rw [Requirement.isMet_of_dateChars hkind htext.isDateChar ht]
    constructor
    · intro h
      obtain ⟨p, hp, haccepts⟩ := h
      by_cases hbeyond : Date.maxYear < n.first.year
      · -- The year wraps round to one before year 0, where no moment in question lies.
        obtain ⟨z, hz, hperiod⟩ := NamedPeriod.exists_inYear_of_ofText? hfirst htext hbeyond hp
        have := ((NamedPeriod.accepts_iff hperiod).1 haccepts).1.year_eq
        rw [NamedPeriod.first_inYear] at this
        omega
      · rw [NamedPeriod.ofText?_eq_period? hfirst htext (Int.not_lt.1 hbeyond)] at hp
        exact (NamedPeriod.accepts_iff hp).1 haccepts
    · intro h
      have hcovers : n.first.year < Date.maxYear := by
        rw [← h.1.year_eq]
        exact hyear.2
      obtain ⟨p, hp⟩ := NamedPeriod.exists_period? hfirst hmin hcovers
      refine ⟨p, ?_, (NamedPeriod.accepts_iff hp).2 h⟩
      rw [NamedPeriod.ofText?_eq_period? hfirst htext (Int.le_of_lt hcovers), hp]

end Criterion

theorem Requirement.isMet_date_iff_newYearsEve :
    let t : Moment := ⟨86400 * Date.dayNumber ⟨2016, 12, 31⟩ + 86399, 999999999, by decide⟩
    let tag : Tag := ⟨⟨1⟩, ["cat"], "animal", 4, t, none⟩
    let n : NamedPeriod := .day 2016 12 31
    n.first.IsValid ∧ n.IsWritten "2016-12-31".toList ∧ t.date = ⟨2016, 12, 31⟩ ∧
      Requirement.IsMet Tag.schema ⟨2024, 6, 15⟩ ⟨.created, .plain "2016-12-31", false⟩ tag := by
  intro t tag n
  have hfirst : n.first.IsValid := by
    constructor <;> decide
  have htext : n.IsWritten "2016-12-31".toList :=
    ⟨["2016".toList, "12".toList, "31".toList], rfl, rfl⟩
  have hdate : t.date = ⟨2016, 12, 31⟩ := by decide
  have hyear : 0 ≤ t.date.year ∧ t.date.year < Date.maxYear := by
    rw [hdate]
    decide
  have hcovers : n.Covers t.date := by
    rw [hdate]
    exact ⟨rfl, rfl, rfl⟩
  have hnotLeap : ¬ t.IsLeap := by
    change ¬ 1000000000 ≤ 999999999
    decide
  have hkind : Tag.schema.kind .created = .moment := rfl
  obtain ⟨-, hall⟩ := isMet_date_iff Tag.schema ⟨2024, 6, 15⟩ hkind hfirst htext
  exact ⟨hfirst, htext, hdate,
    (hall tag t rfl hyear).2 ⟨hcovers, fun hleap => absurd hleap hnotLeap⟩⟩

/-- The leap second at the end of 2016 lies in that year and is not found by it. -/
theorem Requirement.not_isMet_leapSecond :
    let t : Moment := ⟨86400 * Date.dayNumber ⟨2016, 12, 31⟩ + 86399, 1000000000, by decide⟩
    let tag : Tag := ⟨⟨1⟩, ["cat"], "animal", 4, t, none⟩
    let n : NamedPeriod := .year 2016
    Timestamp.ofText? "2016-12-31T23:59:60Z" = some t ∧ n.first.IsValid ∧
      n.IsWritten "2016".toList ∧ n.Covers t.date ∧
      ¬ Requirement.IsMet Tag.schema ⟨2024, 6, 15⟩ ⟨.created, .plain "2016", false⟩ tag := by
  intro t tag n
  have hfirst : n.first.IsValid := by
    constructor <;> decide
  have htext : n.IsWritten "2016".toList := ⟨["2016".toList], rfl, rfl⟩
  have hdate : t.date = ⟨2016, 12, 31⟩ := by decide
  have hafter : t.dateAfter = ⟨2017, 1, 1⟩ := by decide
  refine ⟨rfl, hfirst, htext, ?_, ?_⟩
  · rw [hdate]
    rfl
  · rw [Requirement.isMet_of_dateChars rfl htext.isDateChar (t := t) rfl]
    intro h
    obtain ⟨p, hp, haccepts⟩ := h
    rw [NamedPeriod.ofText?_eq_period? hfirst htext (by decide)] at hp
    have hcovers := ((NamedPeriod.accepts_iff hp).1 haccepts).2 (Nat.le_refl _)
    rw [hafter] at hcovers
    have hyear : (2017 : Int) = 2016 := hcovers
    exact absurd hyear (by decide)

end EntitySearch
