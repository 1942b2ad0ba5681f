import Mathlib.Data.List.Basic

/-!
Sorting by a lawful comparison. A sorted list is told by two facts: no element stands behind a
greater one, and those that tie stand as they stood (`eq_of_ties`). So one comparison with another
to break its ties sorts like the two of them apart, the one that breaks ties first
(`mergeSort_compareLex`).
-/

namespace EntitySearch.Sorting

variable {α : Type}

/-- The elements that tie with one of them, in their sequence. -/
def ties (cmp : α → α → Ordering) (a : α) (xs : List α) : List α :=
  xs.filter fun b => (cmp a b).isEq

section

variable {cmp : α → α → Ordering} [Std.TransCmp cmp]

theorem isLE_total (a b : α) : (cmp a b).isLE || (cmp b a).isLE := by
  have hswap : cmp a b = (cmp b a).swap := Std.OrientedCmp.eq_swap
  rw [hswap]
  cases cmp b a <;> rfl

theorem isLE_trans (a b c : α) (hab : (cmp a b).isLE) (hbc : (cmp b c).isLE) : (cmp a c).isLE :=
  Std.TransCmp.isLE_trans hab hbc

theorem pairwise_mergeSort_isLE (xs : List α) :
    (xs.mergeSort fun a b => (cmp a b).isLE).Pairwise fun a b => (cmp a b).isLE :=
  List.pairwise_mergeSort isLE_trans isLE_total xs

omit [Std.TransCmp cmp] in
theorem mem_ties {xs : List α} {a b : α} : b ∈ ties cmp a xs ↔ b ∈ xs ∧ cmp a b = .eq := by
  simp [ties]

theorem mem_ties_self {xs : List α} {a : α} (ha : a ∈ xs) : a ∈ ties cmp a xs :=
  mem_ties.2 ⟨ha, Std.ReflCmp.compare_self⟩

omit [Std.TransCmp cmp] in
theorem ties_sublist (xs : List α) (a : α) : (ties cmp a xs).Sublist xs := List.filter_sublist

omit [Std.TransCmp cmp] in
theorem ties_reverse (xs : List α) (a : α) : ties cmp a xs.reverse = (ties cmp a xs).reverse :=
  List.filter_reverse

/-- The sort is stable: what ties keeps its sequence. -/
theorem ties_mergeSort (xs : List α) (a : α) :
    ties cmp a (xs.mergeSort fun b c => (cmp b c).isLE) = ties cmp a xs := by
  let sorted := xs.mergeSort fun b c => (cmp b c).isLE
  have hle : (ties cmp a xs).Pairwise fun b c => (cmp b c).isLE := by
    refine List.pairwise_of_forall_mem_list fun b hb c hc => ?_
    have hba : cmp b a = .eq := Std.OrientedCmp.eq_comm.1 (mem_ties.1 hb).2
    have hac : cmp a c = .eq := (mem_ties.1 hc).2
    exact isLE_trans b a c (Ordering.isLE_of_eq_eq hba) (Ordering.isLE_of_eq_eq hac)
  have hsub : (ties cmp a xs).Sublist sorted :=
    List.sublist_mergeSort isLE_trans isLE_total hle (ties_sublist xs a)
  have hsub' : (ties cmp a xs).Sublist (ties cmp a sorted) := by
    simpa [ties] using hsub.filter fun b => (cmp a b).isEq
  have hperm : (ties cmp a sorted).Perm (ties cmp a xs) := (List.mergeSort_perm xs _).filter _
  exact (hsub'.eq_of_length hperm.length_eq.symm).symm

theorem isLE_of_head {x y : α} {xs : List α} (hx : (x :: xs).Pairwise fun a b => (cmp a b).isLE)
    (hy : y ∈ x :: xs) : (cmp x y).isLE := by
  rcases List.mem_cons.1 hy with rfl | hy
  · exact Std.ReflCmp.isLE_rfl
  · exact (List.pairwise_cons.1 hx).1 y hy

theorem mem_of_ties {xs ys : List α} (h : ∀ a, ties cmp a xs = ties cmp a ys)
    {a : α} (ha : a ∈ xs) : a ∈ ys := by
  have hties : a ∈ ties cmp a ys := h a ▸ mem_ties_self ha
  exact (mem_ties.1 hties).1

/-- There is one sorted list with given sequences of ties. -/
theorem eq_of_ties {xs ys : List α} (hx : xs.Pairwise fun a b => (cmp a b).isLE)
    (hy : ys.Pairwise fun a b => (cmp a b).isLE) (h : ∀ a, ties cmp a xs = ties cmp a ys) :
    xs = ys := by
  induction xs generalizing ys with
  | nil =>
    cases ys with
    | nil => rfl
    | cons y ys => exact absurd (mem_of_ties (fun a => (h a).symm) List.mem_cons_self) (by simp)
  | cons x xs ih =>
    cases ys with
    | nil => exact absurd (mem_of_ties h List.mem_cons_self) (by simp)
    | cons y ys =>
      have hxy : (cmp x y).isLE :=
        isLE_of_head hx (mem_of_ties (fun a => (h a).symm) List.mem_cons_self)
      have hyx : (cmp y x).isLE := isLE_of_head hy (mem_of_ties h List.mem_cons_self)
      -- The two heads tie with each other, so one sequence of ties begins with both.
      have htie : cmp x y = .eq := Std.OrientedCmp.isLE_antisymm hxy hyx
      have hself : cmp x x = .eq := Std.ReflCmp.compare_self
      have hheads : x :: ties cmp x xs = y :: ties cmp x ys := by
        simpa [ties, htie, hself] using h x
      obtain rfl : x = y := (List.cons.inj hheads).1
      have htails (a : α) : ties cmp a xs = ties cmp a ys := by
        have ha := h a
        simp only [ties, List.filter_cons] at ha
        split at ha
        · exact (List.cons.inj ha).2
        · exact ha
      rw [ih (List.pairwise_cons.1 hx).2 (List.pairwise_cons.1 hy).2 htails]

end

section Lexicographic

variable {c d : α → α → Ordering}

theorem ties_compareLex (a : α) (xs : List α) :
    ties (compareLex c d) a xs = ties d a (ties c a xs) := by
  simp only [ties, List.filter_filter, compareLex, Ordering.isEq_then, Bool.and_comm]

theorem ties_comm (a : α) (xs : List α) : ties c a (ties d a xs) = ties d a (ties c a xs) := by
  simp only [ties, List.filter_filter, Bool.and_comm]

variable [Std.TransCmp c] [Std.TransCmp d]

omit [Std.TransCmp d] in
theorem pairwise_compareLex {xs : List α} (hc : xs.Pairwise fun a b => (c a b).isLE)
    (hd : ∀ a, (ties c a xs).Pairwise fun a b => (d a b).isLE) :
    xs.Pairwise fun a b => (compareLex c d a b).isLE := by
  refine List.pairwise_of_forall_sublist fun {a b} hab => ?_
  have hle : (c a b).isLE := List.pairwise_iff_forall_sublist.1 hc hab
  rw [compareLex, Ordering.isLE_then_iff_and]
  refine ⟨hle, ?_⟩
  rcases Ordering.isLE_iff_eq_lt_or_eq_eq.1 hle with hlt | heq
  · exact .inl hlt
  · -- What ties is found together among the ties of the first.
    have hself : c a a = .eq := Std.ReflCmp.compare_self
    have htied : [a, b].Sublist (ties c a xs) := by
      simpa [ties, heq, hself] using hab.filter fun b => (c a b).isEq
    exact .inr (List.pairwise_iff_forall_sublist.1 (hd a) htied)

/-- To sort with ties broken is to sort by what breaks them, and then by what decides. -/
theorem mergeSort_compareLex (xs : List α) :
    xs.mergeSort (fun a b => (compareLex c d a b).isLE) =
      (xs.mergeSort fun a b => (d a b).isLE).mergeSort fun a b => (c a b).isLE := by
  let inner := xs.mergeSort fun a b => (d a b).isLE
  let outer := inner.mergeSort fun a b => (c a b).isLE
  have hsorted : outer.Pairwise fun a b => (compareLex c d a b).isLE := by
    refine pairwise_compareLex (pairwise_mergeSort_isLE inner) fun a => ?_
    rw [ties_mergeSort]
    exact (pairwise_mergeSort_isLE xs).sublist (ties_sublist inner a)
  refine eq_of_ties (pairwise_mergeSort_isLE xs) hsorted fun a => ?_
  calc
    ties (compareLex c d) a (xs.mergeSort fun a b => (compareLex c d a b).isLE) =
        ties (compareLex c d) a xs := ties_mergeSort xs a
    _ = ties c a (ties d a xs) := by rw [ties_compareLex, ties_comm]
    _ = ties c a (ties d a inner) := by rw [ties_mergeSort xs a]
    _ = ties d a (ties c a outer) := by rw [ties_mergeSort inner a, ties_comm]
    _ = ties (compareLex c d) a outer := (ties_compareLex a outer).symm

end Lexicographic

end EntitySearch.Sorting
