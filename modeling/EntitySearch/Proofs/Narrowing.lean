import EntitySearch.Tag
import EntitySearch.Proofs.Search
import Mathlib.Data.List.Basic

/-!
Narrowing a search. A further requirement keeps the entities that meet it, in their sequence, and
its negation keeps the others, so the two share out the matches (`shows_require_partition`).
Only the order of a filter and the set of its requirements count.
-/

namespace EntitySearch

variable {α O C : Type} [Key C] {S : Schema α O C} {today : Date} {saved : List α}
  {f g : Filter O C} {r : Requirement C}

section Meaning

def Requirement.negation (r : Requirement C) : Requirement C := { r with negated := !r.negated }

theorem Test.ofRequirement_negation {t : Test C} (ht : Test.ofRequirement S today r = .ok t) :
    Test.ofRequirement S today r.negation = .ok { t with negated := !t.negated } := by
  obtain ⟨ms, hms, rfl⟩ := Test.ofRequirement_eq_ok_iff.1 ht
  exact Test.ofRequirement_eq_ok_iff.2 ⟨ms, hms, rfl⟩

/-- However many values and matchers there are, just one of a requirement and its negation is
met. -/
theorem Requirement.isMet_negation_iff {t : Test C} (ht : Test.ofRequirement S today r = .ok t)
    (a : α) : r.negation.IsMet S today a ↔ ¬ r.IsMet S today a := by
  have hswap : Test.holds S { t with negated := !t.negated } a = !t.holds S a := by
    simp only [Test.holds]
    cases t.negated <;> simp
  rw [← Test.holds_iff ht, ← Test.holds_iff (Test.ofRequirement_negation ht), hswap]
  simp

theorem Filter.matches_require_iff (r : Requirement C) (a : α) :
    (f.require r.key r.criterion r.negated).Matches S today a ↔
      f.Matches S today a ∧ r.IsMet S today a := by
  simp only [Filter.Matches, Filter.require, List.forall_mem_append, List.forall_mem_singleton]

theorem Filter.exists_compile_iff :
    (∃ p, f.compile S today = .ok p) ↔
      ∀ r ∈ f.requirements, ∃ t, Test.ofRequirement S today r = .ok t :=
  Outcome.exists_mapM_eq_ok_iff

theorem Filter.exists_compile_require {t : Test C} (hf : ∃ p, f.compile S today = .ok p)
    (ht : Test.ofRequirement S today r = .ok t) :
    ∃ p, (f.require r.key r.criterion r.negated).compile S today = .ok p := by
  rw [Filter.exists_compile_iff] at hf ⊢
  simp only [Filter.require, List.forall_mem_append, List.forall_mem_singleton]
  exact ⟨hf, t, ht⟩

end Meaning

section Listing

omit [Key C] in
theorem Filter.effectiveOrder_congr (h : g.order = f.order) :
    g.effectiveOrder S = f.effectiveOrder S := by
  rw [Filter.effectiveOrder, h, ← Filter.effectiveOrder]

/-- What is left of a listing when some of its entities drop out is sorted as it stands, so no
entity changes places with another. -/
theorem Listing.filter {found : List α} (h : Listing S today saved f found)
    (horder : g.order = f.order) {meets : α → Bool}
    (hmatches : ∀ a, g.Matches S today a ↔ f.Matches S today a ∧ meets a = true) :
    Listing S today saved g (found.filter meets) := by
  constructor
  · intro a
    rw [List.mem_filter, h.mem_iff, hmatches, and_assoc]
  · rw [Filter.effectiveOrder_congr horder]
    exact h.ordered.filter meets

theorem Listing.congr {found : List α} (h : Listing S today saved f found)
    (horder : g.order = f.order) (hset : ∀ r, r ∈ g.requirements ↔ r ∈ f.requirements) :
    Listing S today saved g found := by
  have hmatches (a : α) : g.Matches S today a ↔ f.Matches S today a ∧ true = true := by
    simp only [Filter.Matches, hset, and_true]
  simpa using h.filter horder hmatches

end Listing

namespace Collection

/-- After the history, every search for the filter shows a window of the list and counts the
whole list, with either way of ordering. -/
def Shows (S : Schema α O C) (today : Date) (saved : List α) (f : Filter O C)
    (found : List α) : Prop :=
  ∀ ordering number size window, Window.ofPage number size = .ok window →
    answer S today ordering saved f number size =
      .ok ⟨window.apply found, found.length, number, size, f⟩

theorem shows_of_listing {found : List α} (hf : ∃ p, f.compile S today = .ok p)
    (h : Listing S today saved f found) : Shows S today saved f found := by
  obtain ⟨p, hp⟩ := hf
  intro ordering number size window hwindow
  rw [answer_eq_page]
  exact page_of_window hp h hwindow

variable (S today saved f r)

/-- A further requirement splits the matches of a filter: those that meet it are the result with
it, the others the result with its negation, both in the sequence they had. To state the
requirements in another sequence, or some of them more than once, makes no difference. -/
theorem shows_require_partition {p : Predicate C} (hp : f.compile S today = .ok p) {t : Test C}
    (ht : Test.ofRequirement S today r = .ok t) :
    ∃ (found : List α) (meets : α → Bool), (∀ a, meets a = true ↔ r.IsMet S today a) ∧
      Shows S today saved f found ∧
      Shows S today saved (f.require r.key r.criterion r.negated) (found.filter meets) ∧
      Shows S today saved (f.require r.key r.criterion (!r.negated))
        (found.filter fun a => !meets a) ∧
      (found.filter meets).length + (found.filter fun a => !meets a).length = found.length ∧
      ∀ g : Filter O C, g.order = f.order → (∀ r', r' ∈ g.requirements ↔ r' ∈ f.requirements) →
        Shows S today saved g found := by
  have hlisting : Listing S today saved f _ := listing_sort hp
  let found := S.sort (f.effectiveOrder S) ((S.remaining saved).filter (p.holds S))
  have hmeets (a : α) : t.holds S a = true ↔ r.IsMet S today a := Test.holds_iff ht a
  have hnot := Test.ofRequirement_negation ht
  refine ⟨found, t.holds S, hmeets, shows_of_listing ⟨p, hp⟩ hlisting, ?_, ?_,
    (List.length_eq_length_filter_add (t.holds S)).symm, ?_⟩
  · apply shows_of_listing (Filter.exists_compile_require ⟨p, hp⟩ ht)
    refine hlisting.filter ?_ fun a => ?_
    · rfl
    · rw [Filter.matches_require_iff, hmeets]
  · apply shows_of_listing (Filter.exists_compile_require ⟨p, hp⟩ hnot)
    refine hlisting.filter ?_ fun a => ?_
    · rfl
    · have hflip : (!t.holds S a) = true ↔ ¬ r.IsMet S today a := by
        rw [← hmeets, Bool.not_eq_true, Bool.not_eq_true']
      rw [hflip, ← Requirement.isMet_negation_iff ht]
      exact Filter.matches_require_iff r.negation a
  · intro g horder hset
    refine shows_of_listing ?_ (hlisting.congr horder hset)
    have hf := Filter.exists_compile_iff.1 ⟨p, hp⟩
    apply Filter.exists_compile_iff.2
    intro r' hr'
    exact hf r' ((hset r').1 hr')

/-- A tag with two names that both suit is listed once, and one without names by the negation. -/
theorem shows_require_partition_tags :
    let today : Date := ⟨2024, 6, 15⟩
    let tag (id : BitVec 128) (names : List String) : Tag :=
      ⟨⟨id⟩, names, "animal", 4, ⟨0, 0, by decide⟩, none⟩
    let saved := [tag 1 ["cat", "pet"], tag 2 ["dog", "pet"], tag 3 ["mouse"], tag 4 []]
    let f : Filter TagSort TagField := ⟨[⟨.usages, .range (some "1") none, false⟩], .empty⟩
    let r : Requirement TagField := ⟨.name, .anyOf ["c*", "pet"], false⟩
    ∃ p t, f.compile Tag.schema today = .ok p ∧ Test.ofRequirement Tag.schema today r = .ok t ∧
      ∃ (found : List Tag) (meets : Tag → Bool), Shows Tag.schema today saved f found ∧
        Shows Tag.schema today saved (f.require .name r.criterion false) (found.filter meets) ∧
        Shows Tag.schema today saved (f.require .name r.criterion true)
          (found.filter fun a => !meets a) ∧
        (found.filter meets).length + (found.filter fun a => !meets a).length = found.length := by
  intro today tag saved f r
  have hp : f.compile Tag.schema today =
      .ok [⟨.usages, false, [.interval (some (.integer 1)) none]⟩] := rfl
  have ht : Test.ofRequirement Tag.schema today r =
      .ok ⟨.name, false, [.pattern [.literal 'c', .run],
        .pattern [.literal 'p', .literal 'e', .literal 't']]⟩ := rfl
  obtain ⟨found, meets, -, hall, hwith, hwithout, htotal, -⟩ :=
    shows_require_partition Tag.schema today saved f r hp ht
  exact ⟨_, _, hp, ht, found, meets, hall, hwith, hwithout, htotal⟩

end Collection

end EntitySearch
