import EntitySearch.Proofs.Outcome
import EntitySearch.Proofs.Window

/-!
Paging windows in words of 64 bits. The numbers of a window are computed in such words, the offset
with saturation, yet no step needs a number that no word holds (`WordWindow.ofPage_eq`), and the
window shows what the offset in unbounded numbers would show: the items at the places that the page
covers (`WordWindow.shows_ofPage`).
-/

namespace EntitySearch

namespace Number

/-- The difference of two words, unless it is below zero. -/
def wordSub? (a b : UInt64) : Option UInt64 := if b ≤ a then some (a - b) else none

/-- The difference of two words, or zero where it is below zero. -/
def wordMonus (a b : UInt64) : UInt64 := if b ≤ a then a - b else 0

/-- The product of two words, or the largest word where no word holds it. -/
def wordMul (a b : UInt64) : UInt64 :=
  if a.toNat * b.toNat ≤ maxNat64 then a * b else .ofNat maxNat64

theorem toNat_wordMonus (a b : UInt64) : (wordMonus a b).toNat = a.toNat - b.toNat := by
  rw [wordMonus]
  split
  · next h => exact UInt64.toNat_sub_of_le a b h
  · next h =>
    rw [UInt64.le_iff_toNat_le] at h
    show 0 = a.toNat - b.toNat
    omega

theorem toNat_wordMul (a b : UInt64) :
    (wordMul a b).toNat = min (a.toNat * b.toNat) maxNat64 := by
  rw [wordMul]
  split
  · next h =>
    -- The exact product is a word, so that the product of words does not wrap around.
    have hword : a.toNat * b.toNat < 2 ^ 64 := Nat.lt_of_le_of_lt h (by decide)
    rw [UInt64.toNat_mul, Nat.mod_eq_of_lt hword, Nat.min_eq_left h]
  · next h =>
    rw [Nat.min_eq_right (by omega)]
    rfl

theorem toNat_min (a b : UInt64) : (min a b).toNat = min a.toNat b.toNat := by
  show (if a ≤ b then a else b).toNat = min a.toNat b.toNat
  split
  · next h =>
    rw [UInt64.le_iff_toNat_le] at h
    omega
  · next h =>
    rw [UInt64.le_iff_toNat_le] at h
    omega

end Number

open Number

namespace Window

variable {α : Type}

/-- The items at the places from `first` on and before `stop`, in their sequence. -/
def itemsBetween (first stop : Nat) (items : List α) : List α :=
  (items.zipIdx.filter fun e => first ≤ e.2 ∧ e.2 < stop).map Prod.fst

theorem itemsBetween_eq (first stop : Nat) (items : List α) :
    itemsBetween first stop items = (items.take stop).drop first := by
  -- The places are counted from `n` on, so that the induction can go to the rest of the list.
  have hfrom (n : Nat) : ((items.zipIdx n).filter fun e => first ≤ e.2 ∧ e.2 < stop).map Prod.fst =
      (items.take (stop - n)).drop (first - n) := by
    induction items generalizing n with
    | nil => simp
    | cons x items ih =>
      rw [List.zipIdx_cons, List.filter_cons]
      by_cases hstop : n < stop
      · have hleft : stop - n = (stop - (n + 1)) + 1 := by omega
        rw [hleft, List.take_succ_cons]
        by_cases hfirst : first ≤ n
        · -- This place is shown, and nothing is skipped from here on.
          have hskip : first - n = 0 := by omega
          have hskip' : first - (n + 1) = 0 := by omega
          rw [if_pos (by simp [hfirst, hstop]), List.map_cons, ih, hskip, hskip']
          rfl
        · have hskip : first - n = (first - (n + 1)) + 1 := by omega
          rw [if_neg (by simp [hfirst]), ih, hskip, List.drop_succ_cons]
      · have hleft : stop - n = 0 := by omega
        have hleft' : stop - (n + 1) = 0 := by omega
        rw [if_neg (by simp [hstop]), ih, hleft, hleft']
        simp
  exact hfrom 0

/-- The window of a page shows the items at the places that the page covers, counted in unbounded
numbers. -/
structure Shows (w : Window) (number size : Nat) : Prop where
  lengthWithin_eq : ∀ total ≤ maxNat64, (w.lengthWithin total : Int) =
    max 0 (min ((total : Int) - ((number : Int) - 1) * size) size)
  apply_eq : ∀ {α : Type} (items : List α), items.length ≤ maxNat64 →
    w.apply items = itemsBetween ((number - 1) * size) (number * size) items
  length_apply : ∀ {α : Type} (items : List α), items.length ≤ maxNat64 →
    (w.apply items).length = w.lengthWithin items.length

theorem lengthWithin_saturated {total : Nat} (hfits : total ≤ maxNat64) (offset limit : Nat) :
    lengthWithin ⟨min offset maxNat64, limit⟩ total = min (total - offset) limit := by
  -- An offset that is cut down is past the end, and so is what it is cut down to.
  have hrest : total - min offset maxNat64 = total - offset := by omega
  rw [lengthWithin, hrest]

theorem length_apply (w : Window) (items : List α) :
    (w.apply items).length = w.lengthWithin items.length := by
  rw [apply, List.length_take, List.length_drop, lengthWithin, Nat.min_comm]

theorem shows_saturated {number : Nat} (hnumber : 1 ≤ number) (size : Nat) :
    Shows ⟨min ((number - 1) * size) maxNat64, size⟩ number size := by
  constructor
  · intro total hfits
    have hoffset : ((number : Int) - 1) * size = ((number - 1) * size : Nat) := by
      rw [Int.natCast_mul, Int.natCast_sub hnumber, Int.natCast_one]
    rw [lengthWithin_saturated hfits, hoffset]
    omega
  · intro α items hfits
    have hpage : number * size - (number - 1) * size = size := by
      rw [← Nat.sub_mul, Nat.sub_sub_self hnumber, Nat.one_mul]
    rw [apply_saturated hfits, itemsBetween_eq, List.drop_take, hpage]
  · intro α items _
    exact length_apply _ items

end Window

/-- A paging window whose numbers are words of 64 bits. -/
structure WordWindow where
  offset : UInt64
  limit : UInt64

namespace WordWindow

/-- The window of a page, computed in words; nothing where a step leaves the words. -/
def ofPage (number size : UInt64) : Option (Except InputError WordWindow) :=
  if number < 1 then some (.error (.pageNumber number.toNat))
  else if size < 1 then some (.error (.pageSize size.toNat))
  else (wordSub? number 1).map fun before => .ok ⟨wordMul before size, size⟩

def lengthWithin (w : WordWindow) (total : UInt64) : UInt64 :=
  min (wordMonus total w.offset) w.limit

/-- The same window in unbounded numbers. -/
def toWindow (w : WordWindow) : Window := ⟨w.offset.toNat, w.limit.toNat⟩

theorem toNat_lengthWithin (w : WordWindow) (total : UInt64) :
    (w.lengthWithin total).toNat = w.toWindow.lengthWithin total.toNat := by
  rw [lengthWithin, toNat_min, toNat_wordMonus]
  rfl

/-- No step leaves the words, and they hold what the unbounded numbers are. -/
theorem ofPage_eq (number size : UInt64) : ∃ r, ofPage number size = some r ∧
    r.map toWindow = Window.ofPage number.toNat size.toNat := by
  have hone (a : UInt64) : a < 1 ↔ a.toNat < 1 := UInt64.lt_iff_toNat_lt
  simp only [ofPage, Window.ofPage, hone]
  by_cases hnumber : number.toNat < 1
  · rw [if_pos hnumber, if_pos hnumber]
    exact ⟨_, rfl, rfl⟩
  · rw [if_neg hnumber, if_neg hnumber]
    by_cases hsize : size.toNat < 1
    · rw [if_pos hsize, if_pos hsize]
      exact ⟨_, rfl, rfl⟩
    · have hle : 1 ≤ number := UInt64.le_iff_toNat_le.2 (Nat.le_of_not_lt hnumber)
      have hbefore : (number - 1).toNat = number.toNat - 1 := UInt64.toNat_sub_of_le number 1 hle
      rw [if_neg hsize, if_neg hsize, wordSub?, if_pos hle]
      refine ⟨_, rfl, ?_⟩
      show Except.ok (toWindow _) = _
      rw [toWindow, toNat_wordMul, hbefore]

/-- For every page there is a window in words. What it shows of a number of items and of a list is
what the page covers in unbounded numbers. -/
theorem shows_ofPage (number size : UInt64) (hnumber : 1 ≤ number) (hsize : 1 ≤ size) :
    ∃ w, ofPage number size = some (.ok w) ∧
      Window.ofPage number.toNat size.toNat = .ok w.toWindow ∧
      w.toWindow.Shows number.toNat size.toNat ∧
      ∀ total, (w.lengthWithin total).toNat = w.toWindow.lengthWithin total.toNat := by
  have hnumber' : 1 ≤ number.toNat := UInt64.le_iff_toNat_le.1 hnumber
  have hsize' : 1 ≤ size.toNat := UInt64.le_iff_toNat_le.1 hsize
  have hexact := Window.ofPage_of_pos hnumber' hsize'
  obtain ⟨r, hr, hmap⟩ := ofPage_eq number size
  rw [hexact, Outcome.map_eq_ok_iff] at hmap
  obtain ⟨w, rfl, hw⟩ := hmap
  refine ⟨w, hr, ?_, ?_, w.toNat_lengthWithin⟩
  · rw [hexact, hw]
  · rw [hw]
    exact Window.shows_saturated hnumber' size.toNat

/-- The exact offset is the first number that is no word, and the offset of the window is one less.
It is past the end of as many items as a word can count. -/
theorem shows_ofPage_saturated :
    let number : UInt64 := 0x8000000000000001
    1 ≤ number ∧ (1 : UInt64) ≤ 2 ∧ ∃ w, ofPage number 2 = some (.ok w) ∧
      w.toWindow.offset = maxNat64 ∧ (number.toNat - 1) * 2 = maxNat64 + 1 ∧
      w.toWindow.lengthWithin maxNat64 = 0 ∧ w.toWindow.apply ["a", "b", "c"] = [] := by
  intro number
  have hnumber : 1 ≤ number := by decide
  have hsize : (1 : UInt64) ≤ 2 := by decide
  obtain ⟨w, hw, hpage, hshows, -⟩ := shows_ofPage number 2 hnumber hsize
  have hoffset : w.toWindow = ⟨maxNat64, 2⟩ := by
    apply Except.ok.inj
    rw [← hpage]
    decide
  have hlength : w.toWindow.lengthWithin maxNat64 = 0 := by
    apply Int.natCast_inj.1
    rw [hshows.lengthWithin_eq maxNat64 (Nat.le_refl _)]
    decide
  refine ⟨hnumber, hsize, w, hw, ?_, by decide, hlength, ?_⟩
  · rw [hoffset]
  · rw [hshows.apply_eq ["a", "b", "c"] (by decide)]
    decide

end WordWindow

end EntitySearch
