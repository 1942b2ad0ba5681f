import EntitySearch.Text.Folding.Table

/-!
Simple case folding of single characters. Two characters are the same up to case when they fold
to the same character; no character is ever the same as a string of two, so `ß` is `ẞ` but not
`ss`. Folding ends after one step (`fold_fold`), and in ASCII it is lower-casing (`fold_of_ascii`).
-/

namespace EntitySearch.Text

def fold (c : Char) : Char := Char.ofNat (mapRuns c.toNat foldingRuns)

theorem toNat_fold (c : Char) : (fold c).toNat = mapRuns c.toNat foldingRuns := by
  have himages : ∀ r ∈ foldingRuns, r.lastImage < 0xD800 ∨ 0xDFFF < r.image ∧
      r.lastImage < 0x110000 := by decide +kernel
  -- A number that is no character would have been replaced by another.
  have hvalid : (mapRuns c.toNat foldingRuns).isValidChar := by
    rcases mapRuns_eq_self_or_image c.toNat foldingRuns with hself | ⟨r, hr, hholds, himage⟩
    · rw [hself]
      exact c.valid
    · have hlast := MapRun.le_lastImage hholds
      have hrange := himages r hr
      rw [himage, Nat.isValidChar]
      omega
  rw [fold, Char.ofNat, dif_pos hvalid]
  rfl

/-- What a character folds to is not folded any further. -/
theorem fold_fold (c : Char) : fold (fold c) = fold c := by
  -- The images of all runs are looked up again.
  have hfinal : ∀ r ∈ foldingRuns, r.isFinal foldingRuns := by decide +kernel
  apply Char.toNat_inj.1
  rw [toNat_fold, toNat_fold]
  rcases mapRuns_eq_self_or_image c.toNat foldingRuns with hself | ⟨r, hr, hholds, himage⟩
  · rw [hself, hself]
  · rw [himage]
    exact mapRuns_image (hfinal r hr) hholds

/-- Among the ASCII characters, folding is lower-casing. -/
theorem fold_of_ascii {c : Char} (hc : c.toNat < 128) : fold c = c.toLower := by
  have hcodes : ∀ n < 128, fold (Char.ofNat n) = (Char.ofNat n).toLower := by decide +kernel
  simpa using hcodes c.toNat hc

/-- No character but the line feed folds to a line feed. -/
theorem fold_eq_newline_iff {c : Char} : fold c = '\n' ↔ c = '\n' := by
  constructor
  · intro h
    have himages : ∀ r ∈ foldingRuns, 10 < r.image := by decide +kernel
    have hcode : mapRuns c.toNat foldingRuns = 10 := by
      rw [← toNat_fold, h]
      rfl
    rcases mapRuns_eq_self_or_image c.toNat foldingRuns with hself | ⟨r, hr, -, himage⟩
    · exact Char.toNat_inj.1 (hself.symm.trans hcode)
    · have := himages r hr
      omega
  · rintro rfl
    exact fold_of_ascii (by decide)

/-- Equal up to simple case folding. -/
def sameFold (a b : Char) : Bool := a == b || fold a == fold b

theorem sameFold_iff (a b : Char) : sameFold a b = true ↔ fold a = fold b := by
  simp only [sameFold, Bool.or_eq_true, beq_iff_eq]
  exact ⟨fun h => h.elim (congrArg fold) id, Or.inr⟩

theorem sameFold_fold (a b : Char) : sameFold a (fold b) = sameFold a b := by
  rw [Bool.eq_iff_iff, sameFold_iff, sameFold_iff, fold_fold]

end EntitySearch.Text
