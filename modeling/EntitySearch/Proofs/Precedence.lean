import EntitySearch.Tag
import EntitySearch.Proofs.Comparison
import EntitySearch.Proofs.Insertion

/-!
How a sort order ranks entities. One pair after another is asked until the values under its key
differ, so pairs that are pushed behind others only break their ties (`Schema.compare_insertAll`),
and entities that tie on all pairs have the same values under all keys (`Schema.compare_eq_iff`).
-/

namespace EntitySearch

namespace Direction

theorem apply_eq_eq_iff (d : Direction) {o : Ordering} : d.apply o = .eq ↔ o = .eq := by
  cases d
  · rfl
  · exact Ordering.swap_eq_eq

theorem apply_reversed (d : Direction) (o : Ordering) : d.reversed.apply o = (d.apply o).swap := by
  cases d
  · rfl
  · exact Ordering.swap_swap.symm

end Direction

namespace SortOrder

/-- The same keys at the same places, each in the other direction. -/
def reversed {K : Type} (o : SortOrder K) : SortOrder K where
  entries := o.entries.map fun pair => (pair.1, pair.2.reversed)
  nodup_keys := by
    rw [List.map_map]
    exact o.nodup_keys

variable {K α : Type} (value : α → K → Value) (a b : α)

theorem compareBy_append (pairs pairs' : List (K × Direction)) :
    compareBy value a b (pairs ++ pairs') =
      (compareBy value a b pairs).then (compareBy value a b pairs') := by
  induction pairs with
  | nil => rfl
  | cons pair pairs ih => rw [List.cons_append, compareBy, compareBy, ih, Ordering.then_assoc]

theorem compareBy_eq_iff (pairs : List (K × Direction)) :
    compareBy value a b pairs = .eq ↔ ∀ pair ∈ pairs, value a pair.1 = value b pair.1 := by
  induction pairs with
  | nil => simp [compareBy]
  | cons pair pairs ih =>
    rw [compareBy, Ordering.then_eq_eq, Direction.apply_eq_eq_iff,
      Std.LawfulEqCmp.compare_eq_iff_eq, ih, List.forall_mem_cons]

theorem compareBy_reversed (pairs : List (K × Direction)) :
    compareBy value a b (pairs.map fun pair => (pair.1, pair.2.reversed)) =
      (compareBy value a b pairs).swap := by
  induction pairs with
  | nil => rfl
  | cons pair pairs ih =>
    rw [List.map_cons, compareBy, compareBy, ih, Direction.apply_reversed, Ordering.swap_then]

end SortOrder

namespace Schema

variable {α O C : Type} (S : Schema α O C) (o : SortOrder O)

theorem compare_eq_iff (a b : α) :
    S.compare o a b = .eq ↔ ∀ k ∈ o.keys, S.sortValue a k = S.sortValue b k := by
  rw [compare, SortOrder.compareBy_eq_iff, InsertionMap.keys, List.forall_mem_map]

theorem compare_reversed (a b : α) : S.compare o.reversed a b = (S.compare o a b).swap :=
  SortOrder.compareBy_reversed S.sortValue a b o.entries

variable [DecidableEq O]

/-- Pairs with other keys decide where all pairs before them tie. -/
theorem compare_insertAll {more : List (O × Direction)} (h : ∀ pair ∈ more, pair.1 ∉ o.keys)
    (a b : α) : S.compare (o.insertAll more) a b =
      (S.compare o a b).then (S.compare (.ofList more) a b) := by
  rw [compare, InsertionMap.entries_insertAll o h, SortOrder.compareBy_append]
  rfl

/-- A sort order ranks entities in a total preorder, in which those tie that have the same value
under each of its keys. Pairs with other keys change nothing between entities that do not tie, and
with all directions reversed every two entities stand the other way round. -/
theorem compare_totalPreorder :
    (∀ a b, S.compare o b a = (S.compare o a b).swap) ∧
    (∀ a b c, (S.compare o a b).isLE → (S.compare o b c).isLE → (S.compare o a c).isLE) ∧
    (∀ a b, S.compare o a b = .eq ↔ ∀ k ∈ o.keys, S.sortValue a k = S.sortValue b k) ∧
    (∀ more : List (O × Direction), (∀ pair ∈ more, pair.1 ∉ o.keys) →
      ∀ a b, S.compare o a b ≠ .eq → S.compare (o.insertAll more) a b = S.compare o a b) ∧
    ∀ a b, S.compare o.reversed a b = (S.compare o a b).swap := by
  refine ⟨?_, ?_, S.compare_eq_iff o, ?_, S.compare_reversed o⟩
  · intro a b
    exact Std.OrientedCmp.eq_swap
  · intro a b c hab hbc
    exact Std.TransCmp.isLE_trans hab hbc
  · intro more hmore a b hne
    rw [S.compare_insertAll o hmore]
    cases hcompare : S.compare o a b with
    | lt => rfl
    | gt => rfl
    | eq => exact absurd hcompare hne

/-- Tags that are used equally often tie, whatever their names; a name that is asked for last, even
twice, does not decide between tags that are not. -/
theorem compare_totalPreorder_tags :
    let tag (id : BitVec 128) (name : String) (usages : Int) : Tag :=
      ⟨⟨id⟩, [name], "animal", usages, ⟨0, 0, by decide⟩, none⟩
    let a := tag 1 "dog" 9
    let b := tag 2 "cat" 9
    let c := tag 3 "ant" 4
    let o : SortOrder TagSort := .ofList [(.usages, .descending)]
    let more : List (TagSort × Direction) := [(.name, .ascending), (.name, .descending)]
    (∀ pair ∈ more, pair.1 ∉ o.keys) ∧
      (Tag.schema.compare o a b).isLE ∧ (Tag.schema.compare o b c).isLE ∧
      (Tag.schema.compare o a c).isLE ∧ Tag.schema.compare o a c ≠ .eq ∧
      Tag.schema.compare (o.insertAll more) a c = Tag.schema.compare o a c := by
  intro tag a b c o more
  have hmore : ∀ pair ∈ more, pair.1 ∉ o.keys := by decide
  have hab : (Tag.schema.compare o a b).isLE := by decide
  have hbc : (Tag.schema.compare o b c).isLE := by decide
  have hne : Tag.schema.compare o a c ≠ .eq := by decide
  obtain ⟨-, htrans, -, hextended, -⟩ := compare_totalPreorder Tag.schema o
  exact ⟨hmore, hab, hbc, htrans a b c hab hbc, hne, hextended more hmore a c hne⟩

end Schema

end EntitySearch
