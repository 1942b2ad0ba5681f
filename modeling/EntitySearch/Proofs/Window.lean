import EntitySearch.Window
import Mathlib.Data.List.Basic

/-!
Paging windows in exact numbers. A saturated offset is past the end of every list that a 64-bit
number can count, so a window shows what the exact offset would show (`apply_saturated`).
-/

namespace EntitySearch.Window

open Number

theorem ofPage_zero_left (size : Nat) : ofPage 0 size = .error (.pageNumber 0) := rfl

theorem ofPage_zero_right {number : Nat} (hnumber : 1 ≤ number) :
    ofPage number 0 = .error (.pageSize 0) := by
  rw [ofPage, if_neg (by omega), if_pos (by omega)]

theorem ofPage_of_pos {number size : Nat} (hnumber : 1 ≤ number) (hsize : 1 ≤ size) :
    ofPage number size = .ok ⟨min ((number - 1) * size) maxNat64, size⟩ := by
  rw [ofPage, if_neg (by omega), if_neg (by omega)]

theorem apply_saturated {α : Type} {items : List α} (hfits : items.length ≤ maxNat64)
    (offset limit : Nat) :
    apply ⟨min offset maxNat64, limit⟩ items = (items.drop offset).take limit := by
  rcases Nat.le_total offset maxNat64 with h | h
  · rw [apply, Nat.min_eq_left h]
  · -- Both offsets are past the end.
    have hexact : items.drop offset = [] := List.drop_eq_nil_of_le (Nat.le_trans hfits h)
    have hsaturated : items.drop maxNat64 = [] := List.drop_eq_nil_of_le hfits
    rw [apply, Nat.min_eq_right h, hexact, hsaturated]

theorem apply_map {α β : Type} (w : Window) (g : α → β) (items : List α) :
    w.apply (items.map g) = (w.apply items).map g := by
  rw [apply, apply, ← List.map_drop, ← List.map_take]

end EntitySearch.Window
