import EntitySearch.Proofs.Precedence
import EntitySearch.Proofs.Sorting

/-!
Sorting entities by several pairs of a sort order is sorting them by one pair after another, the
last one first (`SortOrder.mergeSort_compareBy`). Entities that tie keep their sequence whatever the
directions, so that the reverse of a sorted list is not sorted the other way round unless its ties
read the same from both ends (`Schema.sort_reversed_eq_reverse_iff`).
-/

namespace EntitySearch

open Sorting

namespace SortOrder

variable {K α : Type} (value : α → K → Value)

theorem mergeSort_compareBy (pairs : List (K × Direction)) (as : List α) :
    as.mergeSort (fun a b => (compareBy value a b pairs).isLE) =
      pairs.foldr (fun pair as => as.mergeSort fun a b => (comparePair value pair a b).isLE) as := by
  induction pairs with
  | nil => exact List.mergeSort_of_pairwise (List.pairwise_of_forall fun _ _ => rfl)
  | cons pair pairs ih =>
    rw [List.foldr_cons, ← ih]
    exact mergeSort_compareLex (c := comparePair value pair) (d := (compareBy value · · pairs)) as

end SortOrder

namespace Schema

variable {α O C : Type} (S : Schema α O C) (o : SortOrder O) (as : List α)

theorem pairwise_sort : (S.sort o as).Pairwise fun a b => (S.compare o a b).isLE :=
  pairwise_mergeSort_isLE as

theorem ties_sort (a : α) : ties (S.compare o) a (S.sort o as) = ties (S.compare o) a as :=
  ties_mergeSort as a

theorem sort_sort : S.sort o (S.sort o as) = S.sort o as :=
  List.mergeSort_of_pairwise (S.pairwise_sort o as)

theorem sort_eq_foldr [DecidableEq O] :
    S.sort o as = o.entries.foldr (fun pair as => S.sort (.ofList [pair]) as) as := by
  have hpair (pair : O × Direction) (as : List α) : S.sort (.ofList [pair]) as =
      as.mergeSort fun a b => (SortOrder.comparePair S.sortValue pair a b).isLE := by
    have hcompare : (SortOrder.compareBy S.sortValue · · [pair]) =
        SortOrder.comparePair S.sortValue pair := by
      funext a b
      exact Ordering.then_eq
    rw [← hcompare]
    rfl
  simp only [hpair]
  exact SortOrder.mergeSort_compareBy S.sortValue o.entries as

section Reversed

theorem ties_reversed (a : α) : ties (S.compare o.reversed) a as = ties (S.compare o) a as := by
  simp only [ties, S.compare_reversed, Ordering.isEq_swap]

theorem ties_sort_reversed (a : α) :
    ties (S.compare o) a (S.sort o.reversed as) = ties (S.compare o) a as := by
  rw [← S.ties_reversed, S.ties_sort, S.ties_reversed]

theorem pairwise_reverse_sort :
    (S.sort o as).reverse.Pairwise fun a b => (S.compare o.reversed a b).isLE := by
  rw [List.pairwise_reverse]
  refine (S.pairwise_sort o as).imp fun {a b} hab => ?_
  rw [S.compare_reversed, Ordering.isLE_swap, Std.OrientedCmp.isGE_eq_isLE]
  exact hab

theorem sort_reversed_eq_reverse_iff :
    S.sort o.reversed as = (S.sort o as).reverse ↔
      ∀ a, (ties (S.compare o) a as).reverse = ties (S.compare o) a as := by
  have hreverse (a : α) :
      ties (S.compare o) a (S.sort o as).reverse = (ties (S.compare o) a as).reverse := by
    rw [ties_reverse, S.ties_sort]
  constructor
  · intro h a
    rw [← hreverse, ← h, S.ties_sort_reversed]
  · intro h
    refine eq_of_ties (S.pairwise_sort o.reversed as) (S.pairwise_reverse_sort o as) fun a => ?_
    rw [S.ties_reversed, S.ties_reversed, S.ties_sort_reversed, hreverse, h]

end Reversed

/-- A sort puts the same entities in order, once and for all, and leaves those that tie in their
sequence; it is a sort by the last pair of the order, then by the one before it, and by the first
pair in the end. In the other directions ties keep their sequence just the same, so that only where
all ties read alike from both ends the result is reversed. -/
theorem sort_stable [DecidableEq O] :
    (S.sort o as).Perm as ∧
      ((S.sort o as).Pairwise fun a b => (S.compare o a b).isLE) ∧
      (∀ a, ties (S.compare o) a (S.sort o as) = ties (S.compare o) a as) ∧
      S.sort o as = o.entries.foldr (fun pair as => S.sort (.ofList [pair]) as) as ∧
      S.sort o (S.sort o as) = S.sort o as ∧
      (∀ a, ties (S.compare o) a (S.sort o.reversed as) = ties (S.compare o) a as) ∧
      (S.sort o.reversed as = (S.sort o as).reverse ↔
        ∀ a, (ties (S.compare o) a as).reverse = ties (S.compare o) a as) :=
  ⟨List.mergeSort_perm as _, S.pairwise_sort o as, S.ties_sort o as, S.sort_eq_foldr o as,
    S.sort_sort o as, S.ties_sort_reversed o as, S.sort_reversed_eq_reverse_iff o as⟩

/-- Two tags that are used equally often stand the same way in both directions. -/
theorem sort_stable_tags :
    let tag (id : BitVec 128) (name : String) (usages : Int) : Tag :=
      ⟨⟨id⟩, [name], "animal", usages, ⟨0, 0, by decide⟩, none⟩
    let as := [tag 1 "dog" 9, tag 2 "cat" 9, tag 3 "ant" 4]
    let o : SortOrder TagSort := .ofList [(.usages, .ascending)]
    ties (Tag.schema.compare o) (tag 1 "dog" 9) (Tag.schema.sort o as) =
        [tag 1 "dog" 9, tag 2 "cat" 9] ∧
      Tag.schema.sort o.reversed as ≠ (Tag.schema.sort o as).reverse := by
  intro tag as o
  obtain ⟨-, -, hties, -, -, -, hreverse⟩ := sort_stable Tag.schema o as
  have htwo : ties (Tag.schema.compare o) (tag 1 "dog" 9) as = [tag 1 "dog" 9, tag 2 "cat" 9] := by
    decide
  refine ⟨(hties _).trans htwo, ?_⟩
  intro h
  have hsame := hreverse.1 h (tag 1 "dog" 9)
  rw [htwo] at hsame
  exact absurd hsame (by decide)

end Schema

end EntitySearch
