import EntitySearch.Post
import EntitySearch.Proofs.CriterionText
import EntitySearch.Proofs.Matcher
import EntitySearch.Proofs.Narrowing

/-!
Texts with commas between them. Such a list is read as a choice among just these texts
(`Criterion.ofText_commas`), has a meaning if each of them has one by itself, and is met by the
entities that meet one of them (`Test.commas_alternatives`).
-/

namespace EntitySearch

open Text

/-- The text can be one of a list: its escapes have a meaning, and what would cut it is escaped. -/
structure Criterion.IsAlternative (s : String) : Prop where
  escapes : unescape? s.toList ≠ none
  no_comma : ¬ HasBare [','] s.toList
  no_dots : ¬ HasBare ['.', '.'] s.toList

namespace Criterion

variable {ss : List String}

/-- A list of at least two texts is read as the choice among them. -/
theorem ofText_commas (hlength : 2 ≤ ss.length) (hss : ∀ s ∈ ss, IsAlternative s) :
    ofText (",".intercalate ss) = .anyOf ss := by
  have hne : ss.map String.toList ≠ [] := by
    intro hnil
    rw [List.map_eq_nil_iff] at hnil
    rw [hnil] at hlength
    contradiction
  have hbare : ∀ part ∈ ss.map String.toList, ¬ EscapesNext part := by
    rw [List.forall_mem_map]
    exact fun s hs => not_escapesNext_of_unescape? (hss s hs).escapes
  have hunmarked : ∀ part ∈ ss.map String.toList, ¬ HasBare [','] part := by
    rw [List.forall_mem_map]
    exact fun s hs => (hss s hs).no_comma
  have hdots : ∀ part ∈ ss.map String.toList, ¬ HasBare ['.', '.'] part := by
    rw [List.forall_mem_map]
    exact fun s hs => (hss s hs).no_dots
  have htoList : (",".intercalate ss).toList = [','].intercalate (ss.map String.toList) :=
    String.toList_intercalate
  have hsplit : splitBare ',' (",".intercalate ss).toList = ss.map String.toList := by
    rw [htoList]
    exact splitBare_intercalate (by decide) hne hunmarked
      fun part hpart => hbare part (List.dropLast_subset _ hpart)
  have hcomma : HasBare [','] (",".intercalate ss).toList := by
    rw [← one_lt_length_splitBare_iff (by decide), hsplit, List.length_map]
    exact hlength
  have hnodots : ¬ HasBare ['.', '.'] (",".intercalate ss).toList := by
    rw [htoList]
    exact not_hasBare_intercalate (by decide) (by decide) (by decide) (by decide) hbare hdots
  rw [ofText_of_comma hnodots hcomma, hsplit, List.map_map]
  simp [Function.comp_def]

end Criterion

namespace Test

variable {α O C : Type} [Key C] {S : Schema α O C} {today : Date} {k : C}

theorem exists_ofRequirement_plain_iff {s : String} {negated : Bool} :
    (∃ t, ofRequirement S today ⟨k, .plain s, negated⟩ = .ok t) ↔
      ∃ m, Matcher.ofText today (Key.name k) (S.kind k) s = .ok m := by
  rw [ofRequirement_eq_map, Matcher.ofCriterion_plain, Outcome.exists_map_eq_ok_iff,
    Outcome.exists_map_eq_ok_iff]

theorem ofRequirement_plain_eq_error_iff {s : String} {negated : Bool} {e : InputError} :
    ofRequirement S today ⟨k, .plain s, negated⟩ = .error e ↔
      Matcher.ofText today (Key.name k) (S.kind k) s = .error e := by
  rw [ofRequirement_eq_map, Matcher.ofCriterion_plain, Outcome.map_eq_error_iff,
    Outcome.map_eq_error_iff]

theorem isMet_plain_iff {s : String} {a : α} :
    Requirement.IsMet S today ⟨k, .plain s, false⟩ a ↔
      ∃ m, Matcher.ofText today (Key.name k) (S.kind k) s = .ok m ∧
        ∃ v ∈ S.values a k, m.accepts v = true := by
  simp only [Requirement.IsMet, Matcher.ofCriterion_plain, Outcome.map_eq_ok_iff, iff_true]
  simp

/-- Which of the values suits which of the texts makes no difference. -/
theorem isMet_anyOf_iff {ss : List String} {t : Test C}
    (ht : ofRequirement S today ⟨k, .anyOf ss, false⟩ = .ok t) {a : α} :
    Requirement.IsMet S today ⟨k, .anyOf ss, false⟩ a ↔
      ∃ s ∈ ss, Requirement.IsMet S today ⟨k, .plain s, false⟩ a := by
  have hmet := isMet_iff_accepts ht rfl a
  obtain ⟨ms, hms, rfl⟩ := ofRequirement_eq_ok_iff.1 ht
  rw [hmet]
  simp only [isMet_plain_iff]
  constructor
  · intro h
    obtain ⟨v, hv, m, hm, haccepts⟩ := h
    obtain ⟨s, hs, hread⟩ := Outcome.exists_of_mem_of_mapM hms hm
    exact ⟨s, hs, m, hread, v, hv, haccepts⟩
  · intro h
    obtain ⟨s, hs, m, hread, v, hv, haccepts⟩ := h
    exact ⟨v, hv, m, Outcome.mem_of_mapM hms hs hread, haccepts⟩

/-- A list is compiled if and only if all its texts are, else it has the fault of the first that is
not, and it is met by what meets one of them. So its negation is met where none of them is. -/
theorem commas_alternatives (S : Schema α O C) (today : Date) (k : C) {ss : List String}
    (hlength : 2 ≤ ss.length) (hss : ∀ s ∈ ss, Criterion.IsAlternative s) :
    let listed (negated : Bool) : Requirement C := ⟨k, .ofText (",".intercalate ss), negated⟩
    let single (s : String) : Requirement C := ⟨k, .plain s, false⟩
    ∀ negated,
      ((∃ t, ofRequirement S today (listed negated) = .ok t) ↔
        ∀ s ∈ ss, ∃ t, ofRequirement S today (single s) = .ok t) ∧
      (∀ e, ofRequirement S today (listed negated) = .error e ↔
        ∃ before s after, ss = before ++ s :: after ∧
          (∀ s' ∈ before, ∃ t, ofRequirement S today (single s') = .ok t) ∧
          ofRequirement S today (single s) = .error e) ∧
      ∀ t, ofRequirement S today (listed negated) = .ok t → ∀ a,
        (t.holds S a = true ↔ (listed negated).IsMet S today a) ∧
        ((listed false).IsMet S today a ↔ ∃ s ∈ ss, (single s).IsMet S today a) ∧
        ((listed true).IsMet S today a ↔ ∀ s ∈ ss, ¬ (single s).IsMet S today a) := by
  intro listed single negated
  have hlisted (negated : Bool) : listed negated = ⟨k, .anyOf ss, negated⟩ := by
    simp only [listed, Criterion.ofText_commas hlength hss]
  have hread (negated : Bool) : ofRequirement S today (listed negated) =
      (ss.mapM (Matcher.ofText today (Key.name k) (S.kind k))).map fun ms => ⟨k, negated, ms⟩ := by
    rw [hlisted, ofRequirement_eq_map]
    rfl
  refine ⟨?_, ?_, ?_⟩
  · rw [hread, Outcome.exists_map_eq_ok_iff, Outcome.exists_mapM_eq_ok_iff]
    simp only [single, exists_ofRequirement_plain_iff]
  · intro e
    rw [hread, Outcome.map_eq_error_iff, Outcome.mapM_eq_error_iff]
    simp only [single, exists_ofRequirement_plain_iff, ofRequirement_plain_eq_error_iff]
  · intro t ht a
    -- The minus sign has no part in the meaning of the texts: both readings have one or none has.
    obtain ⟨ms, hms, -⟩ := Outcome.map_eq_ok_iff.1 ((hread negated).symm.trans ht)
    have hpositive : ofRequirement S today (listed false) = .ok ⟨k, false, ms⟩ := by
      rw [hread, hms]
      rfl
    have hmet : (listed false).IsMet S today a ↔ ∃ s ∈ ss, (single s).IsMet S today a := by
      rw [hlisted] at hpositive ⊢
      exact isMet_anyOf_iff hpositive
    have hnot : (listed true).IsMet S today a ↔ ¬ (listed false).IsMet S today a :=
      Requirement.isMet_negation_iff hpositive a
    refine ⟨holds_iff ht a, hmet, ?_⟩
    rw [hnot, hmet]
    simp

/-- The comma in the first text is escaped. A post with two tags is found by one of them, and a post
without tags by the negation. -/
theorem commas_alternatives_tags :
    let ss := ["c\\,t", "d*"]
    let p (tags : List String) : Post :=
      ⟨⟨1⟩, none, tags, .safe, 0, 0, 0, 640, 480, ⟨0, 0, by decide⟩⟩
    let listed (negated : Bool) : Requirement PostField :=
      ⟨.tag, .ofText (",".intercalate ss), negated⟩
    2 ≤ ss.length ∧ (∀ s ∈ ss, Criterion.IsAlternative s) ∧
      (∃ t, ofRequirement Post.schema ⟨2024, 6, 15⟩ (listed false) = .ok t) ∧
      (listed false).IsMet Post.schema ⟨2024, 6, 15⟩ (p ["fish", "dog"]) ∧
      (listed true).IsMet Post.schema ⟨2024, 6, 15⟩ (p []) := by
  intro ss p listed
  have halternative (s : String) (hescapes : unescape? s.toList ≠ none)
      (hcomma : cutBare? [','] s.toList = none) (hdots : cutBare? ['.', '.'] s.toList = none) :
      Criterion.IsAlternative s :=
    ⟨hescapes, (cutBare?_eq_none_iff (by decide) (by decide)).1 hcomma,
      (cutBare?_eq_none_iff (by decide) (by decide)).1 hdots⟩
  have hss : ∀ s ∈ ss, Criterion.IsAlternative s := by
    rw [List.forall_mem_cons, List.forall_mem_singleton]
    exact ⟨halternative _ (by decide) (by decide) (by decide),
      halternative _ (by decide) (by decide) (by decide)⟩
  have hlength : 2 ≤ ss.length := by decide
  obtain ⟨hread, -, hmet⟩ :=
    commas_alternatives Post.schema ⟨2024, 6, 15⟩ .tag hlength hss false
  have ht : ∃ t, ofRequirement Post.schema ⟨2024, 6, 15⟩ (listed false) = .ok t := by
    rw [hread, List.forall_mem_cons, List.forall_mem_singleton]
    exact ⟨⟨_, rfl⟩, ⟨_, rfl⟩⟩
  obtain ⟨t, ht⟩ := ht
  refine ⟨hlength, hss, ⟨t, ht⟩, (hmet t ht _).2.1.2 ⟨"d*", by decide, ?_⟩, (hmet t ht _).2.2.2 ?_⟩
  · exact isMet_plain_iff.2 ⟨.pattern [.literal 'd', .run], rfl, .text "dog", by decide, by decide⟩
  · intro s _ h
    obtain ⟨_, _, v, hv, _⟩ := isMet_plain_iff.1 h
    exact absurd hv List.not_mem_nil

end Test

end EntitySearch
