import EntitySearch.Proofs.Comparison
import EntitySearch.Proofs.History
import EntitySearch.Proofs.Matcher
import Mathlib.Data.List.Nodup
import Mathlib.Data.List.Perm.Subperm
import Mathlib.Order.Defs.PartialOrder

/-!
Listings: the answer to a search before it is cut into pages, told without any search. A listing
holds what a history leaves and a filter asks for, and each entity stands behind those that sort
before it and those that tie with it and were saved first. There is at most one such list
(`Listing.unique`), and sorting the matches finds it (`listing_sort`).
-/

namespace EntitySearch

variable {α O C : Type}

/-- The criterion has a meaning, and one of the entity's values under the key suits it; none does
where the requirement is negated. -/
def Requirement.IsMet [Key C] (S : Schema α O C) (today : Date) (r : Requirement C) (a : α) :
    Prop :=
  ∃ ms, Matcher.ofCriterion today (Key.name r.key) (S.kind r.key) r.criterion = .ok ms ∧
    ((∃ v ∈ S.values a r.key, ∃ m ∈ ms, m.accepts v) ↔ r.negated = false)

def Filter.Matches [Key C] (S : Schema α O C) (today : Date) (f : Filter O C) (a : α) : Prop :=
  ∀ r ∈ f.requirements, r.IsMet S today a

/-- The entities that a history leaves and a filter asks for, in the order of the filter. Those
that tie stand in the sequence of their first saves. -/
structure Listing [Key C] (S : Schema α O C) (today : Date) (saved : List α) (f : Filter O C)
    (found : List α) : Prop where
  mem_iff : ∀ a, a ∈ found ↔ a ∈ S.remaining saved ∧ f.Matches S today a
  ordered : found.Pairwise fun a b =>
    S.compare (f.effectiveOrder S) a b = .lt ∨
      (S.compare (f.effectiveOrder S) a b = .eq ∧ [a, b].Sublist (S.remaining saved))

section Meaning

variable [Key C] {S : Schema α O C} {today : Date}

theorem Test.holds_iff {r : Requirement C} {t : Test C}
    (ht : Test.ofRequirement S today r = .ok t) (a : α) :
    t.holds S a = true ↔ r.IsMet S today a := by
  obtain ⟨ms, hms, rfl⟩ := Test.ofRequirement_eq_ok_iff.1 ht
  simp only [Test.holds, Requirement.IsMet, hms, Except.ok.injEq, exists_eq_left', bne_iff_ne]
  cases r.negated <;> simp

theorem Test.isMet_iff_accepts {r : Requirement C} {t : Test C}
    (ht : Test.ofRequirement S today r = .ok t) (hr : r.negated = false) (a : α) :
    r.IsMet S today a ↔ ∃ v ∈ S.values a r.key, ∃ m ∈ t.matchers, m.accepts v = true := by
  obtain ⟨ms, hms, rfl⟩ := Test.ofRequirement_eq_ok_iff.1 ht
  simp only [Requirement.IsMet, hms, hr, Except.ok.injEq, exists_eq_left', iff_true]

theorem Predicate.holds_iff {rs : List (Requirement C)} {p : Predicate C}
    (hp : Predicate.ofRequirements S today rs = .ok p) (a : α) :
    p.holds S a = true ↔ ∀ r ∈ rs, r.IsMet S today a := by
  have h := Outcome.mapM_eq_ok_iff.1 hp
  clear hp
  induction h with
  | nil => simp [Predicate.holds]
  | cons ht _ ih =>
    simp only [Predicate.holds, List.all_cons, Bool.and_eq_true, List.forall_mem_cons] at ih ⊢
    exact and_congr (Test.holds_iff ht a) ih

end Meaning

theorem not_sublist_swap {l : List α} {a b : α} (hl : l.Nodup) (hab : [a, b].Sublist l) :
    ¬ [b, a].Sublist l := by
  induction l with
  | nil => simp at hab
  | cons c l ih =>
    obtain ⟨hc, hl⟩ := List.nodup_cons.1 hl
    have tail {x y : α} (h : [x, y].Sublist l) : x ∈ l ∧ y ∈ l :=
      ⟨h.subset (by simp), h.subset (by simp)⟩
    intro hba
    -- The head of the list stands first in one of the two at most.
    rcases List.cons_sublist_cons'.1 hab with hab' | ⟨rfl, hb⟩ <;>
      rcases List.cons_sublist_cons'.1 hba with hba' | ⟨rfl, -⟩
    · exact ih hl hab' hba'
    · exact hc (tail hab').2
    · exact hc (tail hba').2
    · exact hc (List.singleton_sublist.1 hb)

theorem sublist_or_sublist_swap {l : List α} {a b : α} (hne : a ≠ b) (ha : a ∈ l) (hb : b ∈ l) :
    [a, b].Sublist l ∨ [b, a].Sublist l := by
  induction l with
  | nil => simp at ha
  | cons c l ih =>
    rcases List.mem_cons.1 ha with rfl | ha'
    · have hb' : b ∈ l := (List.mem_cons.1 hb).resolve_left (Ne.symm hne)
      exact .inl ((List.singleton_sublist.2 hb').cons_cons a)
    · rcases List.mem_cons.1 hb with rfl | hb'
      · exact .inr ((List.singleton_sublist.2 ha').cons_cons b)
      · exact (ih ha' hb').imp (·.cons c) (·.cons c)

section Listing

variable [Key C] {S : Schema α O C} {today : Date} {saved : List α} {f : Filter O C}

theorem Listing.nodup {found : List α} (h : Listing S today saved f found) : found.Nodup := by
  refine h.ordered.imp fun {a b} hab heq => ?_
  subst heq
  rcases hab with hlt | ⟨-, hsub⟩
  · exact Std.OrientedCmp.not_lt_of_lt hlt hlt
  · have := (Collection.nodup_remaining S saved).sublist hsub
    simp at this

theorem Listing.length_le {found : List α} (h : Listing S today saved f found) :
    found.length ≤ (S.remaining saved).length := by
  have hsubset : found ⊆ S.remaining saved := by
    intro a ha
    exact ((h.mem_iff a).1 ha).1
  exact (List.subperm_of_subset h.nodup hsubset).length_le

theorem Listing.unique {xs ys : List α} (hx : Listing S today saved f xs)
    (hy : Listing S today saved f ys) : xs = ys := by
  have hperm : xs.Perm ys :=
    (List.perm_ext_iff_of_nodup hx.nodup hy.nodup).2 fun a => by rw [hx.mem_iff, hy.mem_iff]
  refine hperm.eq_of_pairwise ?_ hx.ordered hy.ordered
  intro a b _ _ hab hba
  rcases hab with hlt | ⟨heq, hsub⟩
  · rcases hba with hlt' | ⟨heq', -⟩
    · exact absurd hlt' (Std.OrientedCmp.not_lt_of_lt hlt)
    · rw [Std.OrientedCmp.eq_comm, hlt] at heq'
      contradiction
  · rcases hba with hlt' | ⟨-, hsub'⟩
    · rw [Std.OrientedCmp.eq_comm, hlt'] at heq
      contradiction
    · exact absurd hsub' (not_sublist_swap (Collection.nodup_remaining S saved) hsub)

/-- Sorting the matches lists them: it is stable, and the collection keeps the sequence of the
first saves. -/
theorem listing_sort {p : Predicate C} (hp : f.compile S today = .ok p) :
    Listing S today saved f
      (S.sort (f.effectiveOrder S) ((S.remaining saved).filter (p.holds S))) := by
  let cmp := S.compare (f.effectiveOrder S)
  let le (a b : α) : Bool := (cmp a b).isLE
  let matching := (S.remaining saved).filter (p.holds S)
  have hnodup : matching.Nodup := (Collection.nodup_remaining S saved).filter _
  have hperm : (matching.mergeSort le).Perm matching := List.mergeSort_perm matching le
  refine ⟨fun a => ?_, List.pairwise_iff_forall_sublist.2 fun {a b} hab => ?_⟩
  · change a ∈ matching.mergeSort le ↔ _
    rw [hperm.mem_iff, List.mem_filter, Predicate.holds_iff hp]
    rfl
  · change [a, b].Sublist (matching.mergeSort le) at hab
    have hle : le a b := List.pairwise_iff_forall_sublist.1
      (Sorting.pairwise_mergeSort_isLE matching) hab
    have hne : a ≠ b := by
      have := (hperm.nodup_iff.2 hnodup).sublist hab
      simpa using this
    cases hcmp : cmp a b with
    | lt => exact .inl hcmp
    | gt => simp only [le, hcmp] at hle; contradiction
    | eq =>
      refine .inr ⟨hcmp, ?_⟩
      have ha : a ∈ matching := hperm.mem_iff.1 (hab.subset (by simp))
      have hb : b ∈ matching := hperm.mem_iff.1 (hab.subset (by simp))
      -- Had `b` been saved first, sorting would have left it in front of `a`.
      rcases sublist_or_sublist_swap hne ha hb with h | h
      · exact h.trans List.filter_sublist
      · have hba : le b a := by
          have : cmp b a = .eq := Std.OrientedCmp.eq_comm.1 hcmp
          simp [le, this]
        have := List.pair_sublist_mergeSort Sorting.isLE_trans Sorting.isLE_total hba h
        exact absurd hab (not_sublist_swap (hperm.nodup_iff.2 hnodup) this)

end Listing

end EntitySearch
