import EntitySearch.Proofs.PatternText

/-!
Widening a pattern: a part of it is replaced by a star. A pattern has just as many line feeds as
the texts that it matches (`count_newline_of_matches`), since a run never takes one. So a part
without a line feed can be widened without losing a match, and a part with one loses every match
(`matches_widened_iff`).
-/

namespace EntitySearch

open Text

namespace Pattern

variable {p : Pattern} {t : List Char}

theorem count_newline_of_matches (h : p.Matches t) :
    t.count '\n' = p.count (.literal '\n') := by
  induction h with
  | nil => rfl
  | @literal c d p t h ht ih =>
    have hsame : d = '\n' ↔ c = '\n' := by
      rw [← fold_eq_newline_iff, ← h, fold_eq_newline_iff]
    rw [List.count_cons, List.count_cons, ih]
    simp [hsame]
  | stop ht ih => simpa using ih
  | skip hc ht ih => simpa [List.count_cons, hc] using ih

theorem Spells.append {cs ds : List Char} {q : Pattern} (hp : Spells cs p) (hq : Spells ds q) :
    Spells (cs ++ ds) (p ++ q) := by
  induction hp with
  | nil => exact hq
  | star _ ih => exact .star ih
  | plain hstar hslash _ ih => exact .plain hstar hslash ih
  | escaped hc _ ih => exact .escaped hc ih

/-- A line feed has no meaning of its own, so that it stands in a pattern where it is written. -/
theorem Spells.newline_mem_iff {cs : List Char} (h : Spells cs p) :
    '\n' ∈ cs ↔ .literal '\n' ∈ p := by
  induction h with
  | nil => simp
  | star _ ih => simpa using ih
  | plain hstar hslash _ ih => simp [ih]
  | @escaped c cs p hc _ ih =>
    have hne : '\n' ≠ c := by
      rintro rfl
      exact absurd hc (by decide)
    simp [ih, hne]

variable {a m b : List Char}

/-- Where a part of a pattern gives way to a star, all matches are kept if the part has no line
feed, and none otherwise. A star alone matches the texts on one line. -/
theorem matches_widened_iff (ha : ¬ HasBadEscape a) (hm : ¬ HasBadEscape m)
    (hb : ¬ HasBadEscape b) :
    (∃ narrow wide, ofText? (a ++ m ++ b) = some narrow ∧ ofText? (a ++ '*' :: b) = some wide ∧
      ∀ t, narrow.matchesText t = true → (wide.matchesText t = true ↔ '\n' ∉ m)) ∧
    ∃ star, ofText? ['*'] = some star ∧ ∀ t, star.matchesText t = true ↔ '\n' ∉ t := by
  obtain ⟨p, hp⟩ := exists_spells ha
  obtain ⟨q, hq⟩ := exists_spells hm
  obtain ⟨r, hr⟩ := exists_spells hb
  have hnarrow : Spells (a ++ m ++ b) (p ++ q ++ r) := (hp.append hq).append hr
  have hwide : Spells (a ++ '*' :: b) (p ++ .run :: r) := hp.append (.star hr)
  refine ⟨⟨_, _, ofText?_of_spells hnarrow, ofText?_of_spells hwide, ?_⟩, ?_⟩
  · intro t
    rw [matchesText_iff, matchesText_iff, hq.newline_mem_iff, ← List.count_eq_zero]
    intro h
    have hcount := count_newline_of_matches h
    constructor
    · -- Both patterns have as many line feeds as the text.
      intro h'
      have hcount' := count_newline_of_matches h'
      simp only [List.count_append, List.count_cons] at hcount hcount'
      simp only [beq_iff_eq, reduceCtorEq, if_false] at hcount'
      omega
    · intro hzero
      obtain ⟨_, t₃, rfl, h, h₃⟩ := matches_append_iff.1 h
      obtain ⟨t₁, t₂, rfl, h₁, h₂⟩ := matches_append_iff.1 h
      have hline : '\n' ∉ t₂ := by
        rw [← List.count_eq_zero, count_newline_of_matches h₂, hzero]
      rw [List.append_assoc]
      exact matches_append_iff.2 ⟨t₁, t₂ ++ t₃, rfl, h₁, matches_run_iff.2 ⟨t₂, t₃, rfl, hline, h₃⟩⟩
  · refine ⟨[.run], rfl, fun t => ?_⟩
    simp [matchesText_iff, matches_run_iff, matches_nil_iff]

/-- Widening the second line keeps the match, though the first ends with a line feed. -/
theorem matches_widened_iff_secondLine :
    let a := "a\n".toList
    let m := "b\\*".toList
    let b := "*".toList
    let t := "A\nB*c".toList
    ¬ HasBadEscape a ∧ ¬ HasBadEscape m ∧ ¬ HasBadEscape b ∧
      ∃ narrow wide, ofText? (a ++ m ++ b) = some narrow ∧ ofText? (a ++ '*' :: b) = some wide ∧
        narrow.matchesText t = true ∧ wide.matchesText t = true := by
  intro a m b t
  have ha : ¬ HasBadEscape a := by decide
  have hm : ¬ HasBadEscape m := by decide
  have hb : ¬ HasBadEscape b := by decide
  have hread : ofText? (a ++ m ++ b) =
      some [.literal 'a', .literal '\n', .literal 'b', .literal '*', .run] := by decide
  obtain ⟨⟨narrow, wide, hnarrow, hwide, hall⟩, -⟩ := matches_widened_iff ha hm hb
  obtain rfl := Option.some.inj (hread.symm.trans hnarrow)
  have hmatches : matchesText
      [.literal 'a', .literal '\n', .literal 'b', .literal '*', .run] t = true := by decide
  exact ⟨ha, hm, hb, _, wide, hnarrow, hwide, hmatches, (hall t hmatches).2 (by decide)⟩

/-- The pattern of a line feed matches it, and a star in its place does not. -/
theorem not_matches_widened_newline :
    ¬ HasBadEscape [] ∧ ¬ HasBadEscape ['\n'] ∧
      ofText? ([] ++ ['\n'] ++ []) = some [.literal '\n'] ∧ ofText? ([] ++ '*' :: []) = some [.run] ∧
      matchesText [.literal '\n'] ['\n'] = true ∧ ¬ matchesText [.run] ['\n'] = true := by
  exact ⟨by decide, by decide, rfl, rfl, by decide, by decide⟩

end Pattern

end EntitySearch
