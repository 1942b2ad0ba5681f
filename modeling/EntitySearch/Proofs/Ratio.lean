import EntitySearch.Post
import EntitySearch.Proofs.Comparison
import EntitySearch.Proofs.Listing
import EntitySearch.Proofs.Matcher

/-!
Criteria on numbers of 64 bits, and the ratio of an image. A criterion asks for the numbers from
one place in the total order to another (`isMet_float_iff`), and what has no number is never found.
Only a height of zero takes the ratio away: an image without a width has the ratio zero, which
every criterion that spans zero finds (`isMet_ratio_of_unknown_iff`).
-/

namespace EntitySearch

open Text

/-- The number that a raw text writes. -/
def float? (raw : String) : Option Binary64 := (unescape? raw.toList).bind readFloat?

/-- The criterion asks for the number: one of its texts writes it, or it lies between the bounds in
the total order. -/
def Criterion.Spans (x : Binary64) : Criterion → Prop
  | .plain raw => float? raw = some x
  | .anyOf raws => ∃ raw ∈ raws, float? raw = some x
  | .range min max =>
    (∀ raw ∈ min, ∃ a, float? raw = some a ∧ a.rank ≤ x.rank) ∧
      ∀ raw ∈ max, ∃ b, float? raw = some b ∧ x.rank ≤ b.rank

namespace Matcher

theorem accepts_float_iff {first last : Option Binary64} {x : Binary64} :
    (interval (first.map .float) (last.map .float)).accepts (.float x) = true ↔
      (∀ a ∈ first, a.rank ≤ x.rank) ∧ ∀ b ∈ last, x.rank ≤ b.rank :=
  accepts_interval_iff (fun _ => rfl) (fun _ _ => rfl) fun _ _ => rfl

variable {today : Date} {key : String} {raw : String} {x : Binary64}

theorem readSpan_float_eq_ok_iff {span : Value × Value} :
    readSpan today key .float raw = .ok span ↔ ∃ x, float? raw = some x ∧
      span = (.float x, .float x) := by
  rw [readSpan_eq_ok_iff, float?]
  cases unescape? raw.toList with
  | none => simp
  | some cs =>
    simp only [ValueKind.span?, Option.bind_some]
    cases readFloat? cs <;> simp [eq_comm]

theorem ofText_float_eq_ok_iff {m : Matcher} :
    ofText today key .float raw = .ok m ↔ ∃ x, float? raw = some x ∧
      m = interval (some (.float x)) (some (.float x)) := by
  rw [ofText_eq_ok_iff (by decide)]
  simp only [readSpan_float_eq_ok_iff]
  simp [eq_comm]

theorem readBound_float_eq_ok_iff {pick : Value × Value → Value}
    (hpick : ∀ v, pick (v, v) = v) {o : Option String} {b : Option Value} :
    readBound today key .float pick o = .ok b ↔
      (∀ raw ∈ o, ∃ x, float? raw = some x) ∧ b = (o.bind float?).map .float := by
  cases o with
  | none => simp [readBound, eq_comm]
  | some raw =>
    have hordered : ValueKind.float.isOrdered = true := rfl
    simp only [readBound_some_eq_ok_iff, hordered, true_and, readSpan_float_eq_ok_iff,
      Option.mem_some_iff, forall_eq', Option.bind_some]
    cases hx : float? raw <;> simp [hpick, eq_comm]

theorem accepts_point_iff {y : Binary64} :
    (interval (some (.float y)) (some (.float y))).accepts (.float x) = true ↔ y = x := by
  have hsame : interval (some (.float y)) (some (.float y)) =
      interval ((some y).map .float) ((some y).map .float) := rfl
  rw [hsame, accepts_float_iff]
  simp only [Option.mem_some_iff, forall_eq']
  rw [← Int.le_antisymm_iff]
  exact ⟨Binary64.rank_injective, congrArg Binary64.rank⟩

theorem spans_iff {c : Criterion} {ms : List Matcher}
    (h : ofCriterion today key .float c = .ok ms) :
    (∃ m ∈ ms, m.accepts (.float x) = true) ↔ c.Spans x := by
  cases c with
  | plain raw =>
    obtain ⟨m, hm, rfl⟩ := ofCriterion_plain_eq_ok_iff.1 h
    obtain ⟨y, hy, rfl⟩ := ofText_float_eq_ok_iff.1 hm
    rw [Criterion.Spans, hy, Option.some_inj, ← accepts_point_iff]
    simp
  | anyOf raws =>
    have hmatchers := Outcome.mapM_eq_ok_iff.1 h
    clear h
    induction hmatchers with
    | nil => simp [Criterion.Spans]
    | cons hm _ ih =>
      obtain ⟨y, hy, rfl⟩ := ofText_float_eq_ok_iff.1 hm
      simp only [Criterion.Spans, List.exists_mem_cons_iff, hy, Option.some_inj] at ih ⊢
      exact or_congr accepts_point_iff ih
  | range min max =>
    obtain ⟨-, first, last, hfirst, hlast, rfl⟩ := ofCriterion_range_eq_ok h
    obtain ⟨hmin, rfl⟩ := (readBound_float_eq_ok_iff fun _ => rfl).1 hfirst
    obtain ⟨hmax, rfl⟩ := (readBound_float_eq_ok_iff fun _ => rfl).1 hlast
    -- A written bound is read as some number, so that it is not open by chance.
    have hbound (o : Option String) (ho : ∀ raw ∈ o, ∃ y, float? raw = some y)
        (P : Binary64 → Prop) :
        (∀ a ∈ o.bind float?, P a) ↔ ∀ raw ∈ o, ∃ a, float? raw = some a ∧ P a := by
      cases o with
      | none => simp
      | some raw =>
        obtain ⟨y, hy⟩ := ho raw rfl
        simp [hy]
    rw [Criterion.Spans, ← hbound min hmin, ← hbound max hmax, ← accepts_float_iff]
    simp

end Matcher

section Requirement

variable {α O C : Type} [Key C] {S : Schema α O C} {today : Date} {k : C} {c : Criterion}

theorem Requirement.isMet_float_iff {t : Test C}
    (ht : Test.ofRequirement S today ⟨k, c, false⟩ = .ok t) (hkind : S.kind k = .float) {a : α}
    {o : Option Binary64} (ho : S.values a k = [.orNull .float o]) :
    Requirement.IsMet S today ⟨k, c, false⟩ a ↔ ∃ x, o = some x ∧ c.Spans x := by
  obtain ⟨ms, hms, -⟩ := Test.ofRequirement_eq_ok_iff.1 ht
  simp only [Requirement.IsMet, hms, ho, Except.ok.injEq, exists_eq_left', List.mem_singleton,
    exists_eq_left, iff_true]
  rw [hkind] at hms
  cases o with
  | none => simp [Value.orNull, Matcher.accepts_null]
  | some x =>
    rw [Value.orNull, Matcher.spans_iff hms]
    simp

end Requirement

namespace Post

theorem ratio?_of_unknown {p : Post} (h : p.width = 0 ∨ p.height = 0) :
    p.ratio? = if p.height = 0 then none else some (.zero false) := by
  rw [ratio?]
  by_cases hheight : p.height = 0
  · rw [if_neg (by omega), if_pos hheight]
  · rw [if_pos (by omega), if_neg hheight, h.resolve_right hheight]
    rfl

/-- An image of which the width or the height is unknown is found by its ratio if and only if the
height is known and the criterion spans zero. -/
theorem isMet_ratio_of_unknown_iff (today : Date) {p : Post} (h : p.width = 0 ∨ p.height = 0)
    {c : Criterion} {t : Test PostField}
    (ht : Test.ofRequirement schema today ⟨.ratio, c, false⟩ = .ok t) :
    Requirement.IsMet schema today ⟨.ratio, c, false⟩ p ↔
      p.height ≠ 0 ∧ c.Spans (.zero false) := by
  rw [Requirement.isMet_float_iff ht rfl (o := p.ratio?) rfl, ratio?_of_unknown h]
  split
  · next hheight => simp [hheight]
  · next hheight => simp [hheight]

/-- No lower bound finds an image of unknown height, not even zero. -/
theorem isMet_ratio_of_unknown_iff_noHeight :
    let p : Post := ⟨⟨1⟩, none, ["cat"], .safe, 0, 0, 0, 640, 0, ⟨0, 0, by decide⟩⟩
    let c : Criterion := .range (some "0") none
    (p.width = 0 ∨ p.height = 0) ∧
      (∃ t, Test.ofRequirement schema ⟨2024, 6, 15⟩ ⟨.ratio, c, false⟩ = .ok t) ∧
      ¬ Requirement.IsMet schema ⟨2024, 6, 15⟩ ⟨.ratio, c, false⟩ p := by
  intro p c
  have hunknown : p.width = 0 ∨ p.height = 0 := .inr rfl
  have ht : Test.ofRequirement schema ⟨2024, 6, 15⟩ ⟨.ratio, c, false⟩ =
      .ok ⟨.ratio, false, [.interval (some (.float (.zero false))) none]⟩ := rfl
  refine ⟨hunknown, ⟨_, ht⟩, ?_⟩
  rw [isMet_ratio_of_unknown_iff ⟨2024, 6, 15⟩ hunknown ht]
  exact fun h => h.1 rfl

/-- An image of unknown width is found by the ratio zero. -/
theorem isMet_ratio_noWidth :
    let p : Post := ⟨⟨1⟩, none, ["cat"], .safe, 0, 0, 0, 0, 480, ⟨0, 0, by decide⟩⟩
    (p.width = 0 ∨ p.height = 0) ∧
      (∃ t, Test.ofRequirement schema ⟨2024, 6, 15⟩ ⟨.ratio, .plain "0", false⟩ = .ok t) ∧
      Requirement.IsMet schema ⟨2024, 6, 15⟩ ⟨.ratio, .plain "0", false⟩ p := by
  intro p
  have ht : Test.ofRequirement schema ⟨2024, 6, 15⟩ ⟨.ratio, .plain "0", false⟩ =
      .ok ⟨.ratio, false, [.interval (some (.float (.zero false))) (some (.float (.zero false)))]⟩ :=
    rfl
  have hmet : Requirement.IsMet schema ⟨2024, 6, 15⟩ ⟨.ratio, .plain "0", false⟩ p :=
    (Requirement.isMet_float_iff ht rfl (o := some (.zero false)) rfl).2 ⟨_, rfl, rfl⟩
  exact ⟨.inl rfl, ⟨_, ht⟩, hmet⟩

end Post

end EntitySearch
