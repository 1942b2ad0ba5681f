/-!
Sets and maps of code points, written as ascending lists of ranges and runs. A look-up stops at
the first entry that begins past the character it looks for.
-/

namespace EntitySearch.Text

/-- The code points from `first` to `last`, both included. -/
structure CodeRange where
  first : Nat
  last : Nat

/-- Whether one of the ranges, which stand in ascending order, holds `n`. -/
def inRanges (n : Nat) : List CodeRange → Bool
  | [] => false
  | r :: rs => if n < r.first then false else n ≤ r.last || inRanges n rs

/-- Every `stride`-th code point from `first` to `last`; `first` is mapped to `image` and the
others keep their distance from it. -/
structure MapRun where
  first : Nat
  last : Nat
  stride : Nat
  image : Nat

def MapRun.holds (r : MapRun) (n : Nat) : Bool :=
  r.first ≤ n && n ≤ r.last && (n - r.first) % r.stride == 0

/-- The image of `last`; no image lies beyond it. -/
def MapRun.lastImage (r : MapRun) : Nat := r.image + (r.last - r.first)

/-- The image of `n` under runs in ascending order; `n` itself when no run holds it. -/
def mapRuns (n : Nat) : List MapRun → Nat
  | [] => n
  | r :: rs =>
    if n < r.first then n
    else if r.holds n then r.image + (n - r.first)
    else mapRuns n rs

theorem mapRuns_eq_self_or_image (n : Nat) (rs : List MapRun) :
    mapRuns n rs = n ∨ ∃ r ∈ rs, r.holds n ∧ mapRuns n rs = r.image + (n - r.first) := by
  induction rs with
  | nil => exact .inl rfl
  | cons r rs ih =>
    rw [mapRuns]
    split
    · exact .inl rfl
    · split
      · next hr => exact .inr ⟨r, List.mem_cons_self, hr, rfl⟩
      · rcases ih with hself | ⟨r', hr', hholds, himage⟩
        · exact .inl hself
        · exact .inr ⟨r', List.mem_cons_of_mem r hr', hholds, himage⟩

/-- Whether `r'` holds every other code point only and the images of `r` are among those left
out. -/
def MapRun.fillsGapsOf (r r' : MapRun) : Bool :=
  r'.stride == 2 && (r.stride == 2 || r.first == r.last) && (r.image + r'.first) % 2 == 1

/-- Whether the images of `r` are left as they are by runs in ascending order. -/
def MapRun.isFinal (r : MapRun) : List MapRun → Bool
  | [] => true
  | r' :: rs =>
    if r'.last < r.image then r.isFinal rs
    else if r.lastImage < r'.first then true
    else r.fillsGapsOf r' && r.isFinal rs

variable {r r' : MapRun} {n : Nat}

theorem MapRun.le_lastImage (h : r.holds n) : r.image + (n - r.first) ≤ r.lastImage := by
  simp only [holds, Bool.and_eq_true, decide_eq_true_eq] at h
  rw [lastImage]
  omega

theorem MapRun.not_holds_of_last_lt {m : Nat} (h : r.last < m) : ¬ r.holds m := by
  simp only [holds, Bool.and_eq_true, decide_eq_true_eq]
  omega

theorem MapRun.not_holds_of_fillsGapsOf (hgaps : r.fillsGapsOf r') (h : r.holds n) :
    ¬ r'.holds (r.image + (n - r.first)) := by
  simp only [fillsGapsOf, Bool.or_eq_true, Bool.and_eq_true, beq_iff_eq] at hgaps
  simp only [holds, Bool.and_eq_true, decide_eq_true_eq, beq_iff_eq] at h ⊢
  obtain ⟨⟨hstride', hstride | hsingle⟩, hparity⟩ := hgaps
  · rw [hstride] at h
    rw [hstride']
    omega
  · rw [hstride']
    omega

theorem mapRuns_cons_of_not_holds {m : Nat} {rs : List MapRun} (h : ¬ r.holds m)
    (hrest : mapRuns m rs = m) : mapRuns m (r :: rs) = m := by
  rw [mapRuns, if_neg h, hrest]
  exact ite_self _

theorem mapRuns_image {rs : List MapRun} (hfinal : r.isFinal rs) (h : r.holds n) :
    mapRuns (r.image + (n - r.first)) rs = r.image + (n - r.first) := by
  have hlast : r.image + (n - r.first) ≤ r.lastImage := MapRun.le_lastImage h
  induction rs with
  | nil => rfl
  | cons r' rs ih =>
    rw [MapRun.isFinal] at hfinal
    split at hfinal
    · next hlt =>
      have hbehind : r'.last < r.image + (n - r.first) := by omega
      exact mapRuns_cons_of_not_holds (MapRun.not_holds_of_last_lt hbehind) (ih hfinal)
    · split at hfinal
      · -- The look-up stops before the run.
        next hlt => exact if_pos (Nat.lt_of_le_of_lt hlast hlt)
      · obtain ⟨hgaps, hrest⟩ := Bool.and_eq_true_iff.1 hfinal
        exact mapRuns_cons_of_not_holds (MapRun.not_holds_of_fillsGapsOf hgaps h) (ih hrest)

end EntitySearch.Text
