import EntitySearch.Wildcard
import Mathlib.Data.List.Forall2

/-!
What a wildcard pattern means, one rule for each way to go on in the pattern or in the text. The
rows of answers that matching fills decide it (`matchesText_iff`), and they do not depend on the
case of the text (`matchesText_map_fold`).
-/

namespace EntitySearch.Pattern

open Text

/-- The pattern matches the whole text. -/
inductive Matches : Pattern → List Char → Prop
  | nil : Matches [] []
  | literal {c d : Char} {p : Pattern} {t : List Char} (h : fold c = fold d) (ht : Matches p t) :
      Matches (.literal c :: p) (d :: t)
  | stop {p : Pattern} {t : List Char} (ht : Matches p t) : Matches (.run :: p) t
  | skip {c : Char} {p : Pattern} {t : List Char} (hc : c ≠ '\n') (ht : Matches (.run :: p) t) :
      Matches (.run :: p) (c :: t)

theorem row_ne_nil (t : List Char) (p : Pattern) : row t p ≠ [] := by
  induction p generalizing t with
  | nil => simp [row]
  | cons piece p ih =>
    cases piece with
    | literal c => simp [row]
    | run =>
      obtain ⟨ok, oks, h⟩ := List.exists_cons_of_ne_nil (ih t)
      cases t <;> simp [row, reach, h]

theorem row_eq_cons (t : List Char) (p : Pattern) :
    row t p = matchesText p t :: (row t p).tail := by
  obtain ⟨ok, oks, h⟩ := List.exists_cons_of_ne_nil (row_ne_nil t p)
  rw [matchesText, h]
  rfl

/-- Without its first answer a row is the row of the rest of the text. -/
theorem tail_row (c : Char) (t : List Char) (p : Pattern) : (row (c :: t) p).tail = row t p := by
  induction p with
  | nil => rfl
  | cons piece p ih =>
    have hrow := row_eq_cons (c :: t) p
    rw [ih] at hrow
    cases piece with
    | literal d =>
      have hrest := row_eq_cons t p
      rw [row, ih, hrest]
      simp [row]
    | run => rw [row, hrow, reach, List.tail_cons, row]

section Equations

variable (p : Pattern) (t : List Char) (c d : Char)

theorem matchesText_nil : matchesText [] t = t.isEmpty := by
  cases t <;> rfl

theorem matchesText_literal_nil : matchesText (.literal c :: p) [] = false := rfl

theorem matchesText_literal_cons :
    matchesText (.literal c :: p) (d :: t) = (matchesText p t && sameFold c d) := by
  rw [matchesText, row, tail_row, row_eq_cons]
  rfl

theorem matchesText_run_nil : matchesText (.run :: p) [] = matchesText p [] := rfl

theorem matchesText_run_cons :
    matchesText (.run :: p) (c :: t) =
      (matchesText p (c :: t) || (c != '\n' && matchesText (.run :: p) t)) := by
  rw [matchesText, row, row_eq_cons, tail_row]
  rfl

end Equations

/-- A pattern does not see the case of a text. -/
theorem matchesText_map_fold (p : Pattern) (t : List Char) :
    matchesText p (t.map fold) = matchesText p t := by
  induction p generalizing t with
  | nil => rw [matchesText_nil, matchesText_nil, List.isEmpty_map]
  | cons piece p ih =>
    cases piece with
    | literal c =>
      cases t with
      | nil => rfl
      | cons d t =>
        rw [List.map_cons, matchesText_literal_cons, matchesText_literal_cons, ih, sameFold_fold]
    | run =>
      induction t with
      | nil => rfl
      | cons c t iht =>
        have hwhole := ih (c :: t)
        rw [List.map_cons] at hwhole ⊢
        rw [matchesText_run_cons, matchesText_run_cons, hwhole, iht]
        -- Folding neither makes a line feed nor takes one away.
        have hline : (fold c != '\n') = (c != '\n') := by
          rw [Bool.eq_iff_iff, bne_iff_ne, bne_iff_ne, ne_eq, fold_eq_newline_iff]
        rw [hline]

theorem matchesText_iff {p : Pattern} {t : List Char} : p.matchesText t = true ↔ p.Matches t := by
  induction p generalizing t with
  | nil =>
    rw [matchesText_nil, List.isEmpty_iff]
    constructor
    · intro h
      rw [h]
      exact .nil
    · intro h
      cases h
      rfl
  | cons piece p ih =>
    cases piece with
    | literal c =>
      cases t with
      | nil =>
        rw [matchesText_literal_nil]
        constructor
        · intro h
          contradiction
        · intro h
          cases h
      | cons d t =>
        rw [matchesText_literal_cons, Bool.and_eq_true, ih, sameFold_iff]
        constructor
        · intro h
          exact .literal h.2 h.1
        · intro h
          cases h with
          | literal h ht => exact ⟨ht, h⟩
    | run =>
      -- The run takes characters from the front of the text.
      induction t with
      | nil =>
        rw [matchesText_run_nil, ih]
        constructor
        · exact .stop
        · intro h
          cases h with
          | stop ht => exact ht
      | cons c t iht =>
        rw [matchesText_run_cons, Bool.or_eq_true, Bool.and_eq_true, bne_iff_ne, ih, iht]
        constructor
        · intro h
          rcases h with ht | ⟨hc, ht⟩
          · exact .stop ht
          · exact .skip hc ht
        · intro h
          cases h with
          | stop ht => exact .inl ht
          | skip hc ht => exact .inr ⟨hc, ht⟩

section Cuts

variable {p q : Pattern} {t : List Char} {c : Char}

theorem matches_nil_iff : Matches [] t ↔ t = [] := by
  constructor
  · intro h
    cases h
    rfl
  · rintro rfl
    exact .nil

theorem matches_literal_iff :
    Matches (.literal c :: p) t ↔ ∃ d r, t = d :: r ∧ fold c = fold d ∧ Matches p r := by
  constructor
  · intro h
    cases h with
    | literal h ht => exact ⟨_, _, rfl, h, ht⟩
  · rintro ⟨d, r, rfl, h, hr⟩
    exact .literal h hr

/-- A run takes a part of the text without a line feed from its front. -/
theorem matches_run_iff :
    Matches (.run :: p) t ↔ ∃ s r, t = s ++ r ∧ '\n' ∉ s ∧ Matches p r := by
  constructor
  · intro h
    induction t with
    | nil =>
      cases h with
      | stop h => exact ⟨[], [], rfl, List.not_mem_nil, h⟩
    | cons c t ih =>
      cases h with
      | stop h => exact ⟨[], c :: t, rfl, List.not_mem_nil, h⟩
      | skip hc h =>
        obtain ⟨s, r, rfl, hs, hr⟩ := ih h
        exact ⟨c :: s, r, rfl, List.not_mem_cons_of_ne_of_not_mem hc.symm hs, hr⟩
  · rintro ⟨s, r, rfl, hs, hr⟩
    induction s with
    | nil => exact .stop hr
    | cons c s ih =>
      obtain ⟨hc, hs⟩ := List.ne_and_not_mem_of_not_mem_cons hs
      exact .skip hc.symm (ih hs)

theorem matches_append_iff :
    Matches (p ++ q) t ↔ ∃ s r, t = s ++ r ∧ Matches p s ∧ Matches q r := by
  induction p generalizing t with
  | nil => simp [matches_nil_iff]
  | cons piece p ih =>
    cases piece with
    | literal c =>
      simp only [List.cons_append, matches_literal_iff, ih]
      constructor
      · rintro ⟨d, _, rfl, h, s, r, rfl, hs, hr⟩
        exact ⟨d :: s, r, rfl, ⟨d, s, rfl, h, hs⟩, hr⟩
      · rintro ⟨_, r, rfl, ⟨d, s, rfl, h, hs⟩, hr⟩
        exact ⟨d, s ++ r, rfl, h, s, r, rfl, hs, hr⟩
    | run =>
      simp only [List.cons_append, matches_run_iff, ih]
      constructor
      · rintro ⟨u, _, rfl, hu, s, r, rfl, hs, hr⟩
        exact ⟨u ++ s, r, (List.append_assoc ..).symm, ⟨u, s, rfl, hu, hs⟩, hr⟩
      · rintro ⟨_, r, rfl, ⟨u, s, rfl, hu, hs⟩, hr⟩
        exact ⟨u, s ++ r, List.append_assoc .., hu, s, r, rfl, hs, hr⟩

end Cuts

end EntitySearch.Pattern
