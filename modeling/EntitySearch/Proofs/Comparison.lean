import EntitySearch.Schema

/-!
Comparing is lawful: values stand in one total order, whatever their kinds, in which only equal
ones tie (`Value.compare_totalOrder`), and every sort order compares entities by a total preorder.
Sorting and paging need no more than that.
-/

namespace EntitySearch

open Std

namespace Binary64

/-- The sign tells which half the bits lie in; ranks count up in the one and down in the other. -/
theorem rank_cases (x : Binary64) :
    (x.bits.toNat < signWeight ∧ x.rank = x.bits.toNat) ∨
      (signWeight ≤ x.bits.toNat ∧ x.rank = (signWeight : Int) - x.bits.toNat - 1) := by
  have hsize : x.bits.toNat < 2 ^ 64 := x.bits.toNat_lt
  have hweight : signWeight = 2 ^ 63 := rfl
  by_cases h : signWeight ≤ x.bits.toNat
  · have hnegative : x.negative = true := decide_eq_true h
    rw [rank, if_pos hnegative, magnitude, hweight]
    omega
  · have hnegative : ¬ x.negative = true := by simpa [negative] using h
    rw [rank, if_neg hnegative, magnitude, hweight]
    omega

theorem rank_injective {x y : Binary64} (h : x.rank = y.rank) : x = y := by
  have hbits : x.bits.toNat = y.bits.toNat := by
    rcases x.rank_cases with ⟨hx, hx'⟩ | ⟨hx, hx'⟩ <;>
      rcases y.rank_cases with ⟨hy, hy'⟩ | ⟨hy, hy'⟩ <;> omega
  cases x
  cases y
  rw [mk.injEq]
  exact UInt64.toNat_inj.1 hbits

end Binary64

instance Moment.transCmp_compare : TransCmp Moment.compare :=
  inferInstanceAs (TransCmp (compareLex (compareOn Moment.second) (compareOn Moment.nano)))

instance Moment.lawfulEqCmp_compare : LawfulEqCmp Moment.compare where
  eq_of_compare {a b} h := by
    have hparts : a.second = b.second ∧ a.nano = b.nano := by
      simpa only [Moment.compare, Ordering.then_eq_eq, LawfulEqOrd.compare_eq_iff_eq] using h
    obtain ⟨hsecond, hnano⟩ := hparts
    cases a
    cases b
    cases hsecond
    cases hnano
    rfl

instance Binary64.transCmp_totalCompare : TransCmp Binary64.totalCompare :=
  inferInstanceAs (TransCmp (compareOn Binary64.rank))

instance Binary64.lawfulEqCmp_totalCompare : LawfulEqCmp Binary64.totalCompare where
  eq_of_compare h := Binary64.rank_injective (LawfulEqOrd.eq_of_compare h)

instance Value.transCmp_compareText : TransCmp Value.compareText :=
  inferInstanceAs (TransCmp (compareLex (compareOn Text.lowercase) Ord.compare))

instance Value.lawfulEqCmp_compareText : LawfulEqCmp Value.compareText where
  eq_of_compare h := LawfulEqOrd.eq_of_compare (Ordering.then_eq_eq.1 h).2

namespace Value

theorem compare_of_rank_ne {v w : Value} (h : v.rank ≠ w.rank) :
    v.compare w = Ord.compare v.rank w.rank := by
  cases v <;> cases w <;> first | exact absurd rfl h | rfl

theorem compare_rank_isLE {v w : Value} (h : (v.compare w).isLE) : v.rank ≤ w.rank := by
  by_cases hr : v.rank = w.rank
  · exact Nat.le_of_eq hr
  · rw [compare_of_rank_ne hr] at h
    exact Nat.isLE_compare.1 h

/-- Two values of one kind. -/
inductive OfOneKind : Value → Value → Prop
  | text (a b : String) : OfOneKind (.text a) (.text b)
  | integer (a b : Int) : OfOneKind (.integer a) (.integer b)
  | float (a b : Binary64) : OfOneKind (.float a) (.float b)
  | boolean (a b : Bool) : OfOneKind (.boolean a) (.boolean b)
  | moment (a b : Moment) : OfOneKind (.moment a) (.moment b)
  | null : OfOneKind .null .null

theorem ofOneKind_of_rank_eq {v w : Value} (h : v.rank = w.rank) : OfOneKind v w := by
  cases v <;> cases w <;> simp only [rank, Nat.reduceEqDiff, reduceCtorEq] at h <;> constructor

theorem compare_swap (v w : Value) : v.compare w = (w.compare v).swap := by
  by_cases hr : v.rank = w.rank
  · cases ofOneKind_of_rank_eq hr with
    | text a b => exact transCmp_compareText.eq_swap
    | integer a b => exact OrientedOrd.eq_swap
    | float a b => exact Binary64.transCmp_totalCompare.eq_swap
    | boolean a b => exact OrientedOrd.eq_swap
    | moment a b => exact Moment.transCmp_compare.eq_swap
    | null => rfl
  · rw [compare_of_rank_ne hr, compare_of_rank_ne (Ne.symm hr)]
    exact OrientedOrd.eq_swap

theorem compare_trans {u v w : Value} (huv : (u.compare v).isLE) (hvw : (v.compare w).isLE) :
    (u.compare w).isLE := by
  have hle := compare_rank_isLE huv
  have hle' := compare_rank_isLE hvw
  by_cases hr : u.rank = w.rank
  · -- The kind in the middle lies between two equal ones, so all three values are of one kind.
    have hv : v.rank = w.rank := by omega
    have hmiddle := ofOneKind_of_rank_eq hv
    cases ofOneKind_of_rank_eq hr with
    | text a c => cases hmiddle; exact transCmp_compareText.isLE_trans huv hvw
    | integer a c => cases hmiddle; exact TransOrd.isLE_trans huv hvw
    | float a c => cases hmiddle; exact Binary64.transCmp_totalCompare.isLE_trans huv hvw
    | boolean a c => cases hmiddle; exact TransOrd.isLE_trans huv hvw
    | moment a c => cases hmiddle; exact Moment.transCmp_compare.isLE_trans huv hvw
    | null => rfl
  · rw [compare_of_rank_ne hr]
    exact Nat.isLE_compare.2 (Nat.le_trans hle hle')

theorem rank_eq_of_compare {v w : Value} (h : v.compare w = .eq) : v.rank = w.rank := by
  by_cases hr : v.rank = w.rank
  · exact hr
  · rw [compare_of_rank_ne hr] at h
    exact LawfulEqOrd.eq_of_compare h

theorem eq_of_compare {v w : Value} (h : v.compare w = .eq) : v = w := by
  cases ofOneKind_of_rank_eq (rank_eq_of_compare h) with
  | text a b => exact congrArg text (lawfulEqCmp_compareText.eq_of_compare h)
  | integer a b => exact congrArg integer (LawfulEqOrd.eq_of_compare h)
  | float a b => exact congrArg float (Binary64.lawfulEqCmp_totalCompare.eq_of_compare h)
  | boolean a b => exact congrArg boolean (LawfulEqOrd.eq_of_compare h)
  | moment a b => exact congrArg moment (Moment.lawfulEqCmp_compare.eq_of_compare h)
  | null => rfl

instance transCmp_compare : TransCmp Value.compare where
  eq_swap := compare_swap _ _
  isLE_trans := compare_trans

instance lawfulEqCmp_compare : LawfulEqCmp Value.compare where
  eq_of_compare := eq_of_compare

/-- All values stand in one total order. Only a value and itself tie: texts that differ in the case
of a letter do not, nor do the two zeros or two bit patterns that are no numbers. -/
theorem compare_totalOrder (u v w : Value) :
    v.compare u = (u.compare v).swap ∧
      ((u.compare v).isLE → (v.compare w).isLE → (u.compare w).isLE) ∧
      (u.compare v = .eq ↔ u = v) :=
  ⟨compare_swap v u, compare_trans, LawfulEqCmp.compare_eq_iff_eq⟩

/-- The last two texts have one lower-case form, in which the capital letter becomes two. -/
theorem compare_totalOrder_dottedCapital :
    let u : Value := .float (.nan true)
    let v : Value := .text "i\u0307"
    let w : Value := .text "İ"
    Text.lowercase "i\u0307" = Text.lowercase "İ" ∧ (u.compare v).isLE ∧ (v.compare w).isLE ∧
      (u.compare w).isLE ∧ v.compare w ≠ .eq ∧ w.compare v = (v.compare w).swap := by
  intro u v w
  have hlower : Text.lowercase "i\u0307" = Text.lowercase "İ" := by decide
  have huv : (u.compare v).isLE := by decide
  have hvw : (v.compare w).isLE := by decide
  have hne : v ≠ w := by decide
  obtain ⟨-, htrans, -⟩ := compare_totalOrder u v w
  obtain ⟨hswap, -, heq⟩ := compare_totalOrder v w u
  exact ⟨hlower, huv, hvw, htrans huv hvw, mt heq.1 hne, hswap⟩

end Value

namespace SortOrder

variable {K α : Type} (value : α → K → Value)

/-- One pair of a sort order: the values under its key, in its direction. -/
def comparePair (pair : K × Direction) (a b : α) : Ordering :=
  pair.2.apply ((value a pair.1).compare (value b pair.1))

instance (pair : K × Direction) : TransCmp (comparePair value pair) := by
  obtain ⟨k, d⟩ := pair
  cases d with
  | ascending =>
    exact {
      eq_swap := Value.transCmp_compare.eq_swap
      isLE_trans := Value.transCmp_compare.isLE_trans }
  | descending =>
    -- Reversing the outcome is exchanging the two sides.
    have swapped (a b : α) : comparePair value (k, .descending) a b =
        (value b k).compare (value a k) := OrientedCmp.eq_swap.symm
    refine { eq_swap := ?_, isLE_trans := ?_ }
    · intro a b
      rw [swapped, swapped]
      exact OrientedCmp.eq_swap
    · intro a b c hab hbc
      rw [swapped] at hab hbc ⊢
      exact TransCmp.isLE_trans hbc hab

theorem compareBy_cons (pair : K × Direction) (pairs : List (K × Direction)) (a b : α) :
    compareBy value a b (pair :: pairs) =
      compareLex (comparePair value pair) (compareBy value · · pairs) a b := rfl

instance (pairs : List (K × Direction)) : TransCmp fun a b => compareBy value a b pairs := by
  induction pairs with
  | nil => exact { eq_swap := rfl, isLE_trans := fun _ _ => rfl }
  | cons pair pairs ih =>
    simp only [compareBy_cons]
    infer_instance

end SortOrder

instance {α O C : Type} (S : Schema α O C) (o : SortOrder O) : TransCmp (S.compare o) :=
  inferInstanceAs (TransCmp fun a b => SortOrder.compareBy S.sortValue a b o.entries)

end EntitySearch
