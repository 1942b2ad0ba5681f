import EntitySearch.Error
import EntitySearch.Number.Numeral

/-!
Paging windows: the part of a list that one page shows. Pages count from 1. An offset past the
largest 64-bit number stays at that number, which is past the end of every list.
-/

namespace EntitySearch

structure Window where
  offset : Nat
  limit : Nat
  deriving DecidableEq

namespace Window

def ofPage (number size : Nat) : Except InputError Window :=
  if number < 1 then .error (.pageNumber number)
  else if size < 1 then .error (.pageSize size)
  else .ok ⟨min ((number - 1) * size) Number.maxNat64, size⟩

/-- How many of `total` items the window shows. -/
def lengthWithin (w : Window) (total : Nat) : Nat := min (total - w.offset) w.limit

def apply {α : Type} (w : Window) (items : List α) : List α := (items.drop w.offset).take w.limit

end Window

end EntitySearch
