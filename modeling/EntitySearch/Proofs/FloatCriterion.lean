import EntitySearch.Proofs.Alternatives
import EntitySearch.Proofs.NumericOrder
import EntitySearch.Proofs.Ratio

/-!
Numbers of 64 bits as criteria, told by the numbers and not by their bits. A finite number is found
where it is asked for as a number (`Test.float_accepts_iff`), with two exceptions: the two zeros are
told apart, and a bound that is no number shuts out all numbers or none.
-/

namespace EntitySearch

/-- The text writes the number, with the same sign if it is zero. -/
def WritesNumber (raw : String) (x : Binary64) : Prop :=
  ∃ y, float? raw = some y ∧ y.NumEq x ∧ y.negative = x.negative

/-- The criterion asks for the number. -/
def Criterion.FindsNumber (x : Binary64) : Criterion → Prop
  | .plain raw => WritesNumber raw x
  | .anyOf raws => ∃ raw ∈ raws, WritesNumber raw x
  | .range min max =>
    (∀ raw ∈ min, ∃ a, float? raw = some a ∧ a.Before x) ∧
      ∀ raw ∈ max, ∃ b, float? raw = some b ∧ x.Before b

theorem Criterion.spans_iff_findsNumber {x : Binary64} (hx : x.isFinite = true) (c : Criterion) :
    c.Spans x ↔ c.FindsNumber x := by
  have hsame (y : Binary64) : y = x ↔ y.NumEq x ∧ y.negative = x.negative :=
    Binary64.eq_iff_numEq (Binary64.not_isNaN_of_isFinite hx)
  have htext (raw : String) : float? raw = some x ↔ WritesNumber raw x := by
    simp [WritesNumber, ← hsame]
  have hlower (a : Binary64) : a.rank ≤ x.rank ↔ a.Before x :=
    Binary64.rank_le_iff_before (.inr hx)
  have hupper (b : Binary64) : x.rank ≤ b.rank ↔ x.Before b :=
    Binary64.rank_le_iff_before (.inl hx)
  cases c <;> simp only [Spans, FindsNumber, htext, hlower, hupper]

namespace Test

variable {α O C : Type} [Key C] {S : Schema α O C} {today : Date} {r : Requirement C} {t : Test C}

/-- Of the finite numbers, the matchers of a requirement accept just those asked for. -/
theorem float_accepts_iff (ht : ofRequirement S today r = .ok t) (hkind : S.kind r.key = .float)
    {x : Binary64} (hx : x.isFinite = true) :
    (∃ m ∈ t.matchers, m.accepts (.float x) = true) ↔ r.criterion.FindsNumber x := by
  obtain ⟨ms, hms, rfl⟩ := ofRequirement_eq_ok_iff.1 ht
  rw [hkind] at hms
  rw [← Criterion.spans_iff_findsNumber hx, ← Matcher.spans_iff hms]

/-- Four thirds lies above the bound that is no number and has a minus sign, and below infinity. -/
theorem float_accepts_iff_fourThirds :
    let x : Binary64 := ⟨0x3FF5555555555555⟩
    let r : Requirement PostField := ⟨.ratio, .range (some "-nan") (some "inf"), false⟩
    ∃ t, ofRequirement Post.schema ⟨2024, 6, 15⟩ r = .ok t ∧ x.isFinite = true ∧
      ∃ m ∈ t.matchers, m.accepts (.float x) = true := by
  intro x r
  have ht : ofRequirement Post.schema ⟨2024, 6, 15⟩ r = .ok ⟨.ratio, false,
      [.interval (some (.float (.nan true))) (some (.float (.infinity false)))]⟩ := rfl
  have hx : x.isFinite = true := by decide
  have hlower : (Binary64.nan true).Before x := .inl (by decide)
  have hupper : x.Before (.infinity false) := by
    rw [← Binary64.rank_le_iff_before (.inl hx)]
    decide
  refine ⟨_, ht, hx, (float_accepts_iff ht rfl hx).2 ⟨?_, ?_⟩⟩
  · intro raw hraw
    obtain rfl := Option.some.inj hraw
    exact ⟨_, rfl, hlower⟩
  · intro raw hraw
    obtain rfl := Option.some.inj hraw
    exact ⟨_, rfl, hupper⟩

end Test

/-- A post of no width has the ratio zero and is not found by the negative zero, though the two are
equal as numbers; a post of any ratio is found below a bound that is no number. -/
theorem Post.ratio_not_numeric :
    let flat : Post := ⟨⟨1⟩, none, ["cat"], .safe, 0, 0, 0, 0, 480, ⟨0, 0, by decide⟩⟩
    let wide : Post := ⟨⟨1⟩, none, ["cat"], .safe, 0, 0, 0, 640, 480, ⟨0, 0, by decide⟩⟩
    (flat.ratio? = some (.zero false) ∧ float? "-0" = some (.zero true) ∧
      (Binary64.zero true).NumEq (.zero false) ∧
      (∃ t, Test.ofRequirement schema ⟨2024, 6, 15⟩ ⟨.ratio, .plain "-0", false⟩ = .ok t) ∧
      ¬ Requirement.IsMet schema ⟨2024, 6, 15⟩ ⟨.ratio, .plain "-0", false⟩ flat) ∧
    float? "nan" = some (.nan false) ∧
      (∃ x, wide.ratio? = some x ∧ x.isFinite = true ∧ ¬ x.NumLE (.nan false)) ∧
      Requirement.IsMet schema ⟨2024, 6, 15⟩ ⟨.ratio, .range none (some "nan"), false⟩ wide := by
  intro flat wide
  have hminus : float? "-0" = some (.zero true) := rfl
  have hnan : float? "nan" = some (.nan false) := rfl
  have hflat : flat.ratio? = some (.zero false) := rfl
  have hwide : wide.ratio? = some ⟨0x3FF5555555555555⟩ := by decide +kernel
  have hzero : Test.ofRequirement schema ⟨2024, 6, 15⟩ ⟨.ratio, .plain "-0", false⟩ =
      .ok ⟨.ratio, false, [.interval (some (.float (.zero true))) (some (.float (.zero true)))]⟩ :=
    rfl
  have hbelow : Test.ofRequirement schema ⟨2024, 6, 15⟩ ⟨.ratio, .range none (some "nan"), false⟩ =
      .ok ⟨.ratio, false, [.interval none (some (.float (.nan false)))]⟩ := rfl
  refine ⟨⟨hflat, hminus, ?_, ⟨_, hzero⟩, ?_⟩, hnan, ?_, ?_⟩
  · rw [Binary64.numEq_iff, Binary64.numLE_iff rfl rfl, Binary64.numLE_iff rfl rfl,
      Binary64.toRat_le_iff, Binary64.toRat_le_iff]
    decide
  · rw [Requirement.isMet_float_iff hzero rfl (congrArg (fun o => [Value.orNull .float o]) hflat)]
    intro h
    obtain ⟨x, hx, hspans⟩ := h
    obtain rfl := Option.some.inj hx
    have hsame := hminus.symm.trans hspans
    exact absurd hsame (by decide)
  · exact ⟨_, hwide, by decide, fun h => absurd h.not_isNaN.2 (by decide)⟩
  · rw [Requirement.isMet_float_iff hbelow rfl (congrArg (fun o => [Value.orNull .float o]) hwide)]
    refine ⟨_, rfl, nofun, ?_⟩
    intro raw hraw
    obtain rfl := Option.some.inj hraw
    exact ⟨_, hnan, by decide⟩

end EntitySearch
