import EntitySearch.Matcher
import EntitySearch.Proofs.Backslash
import EntitySearch.Proofs.Wildcard

/-!
What the text of a pattern asks for. The grammar of the texts (`Spells`) names the elements of the
pattern one after another, and a text on one line is accepted exactly when it can be cut into one
piece for each of them (`Matcher.text_accepts_iff_cut`). Only an escape without a meaning keeps a
text from being a pattern.
-/

namespace EntitySearch

open Text

namespace Pattern

/-- The text writes the pattern, element by element. -/
inductive Spells : List Char → Pattern → Prop
  | nil : Spells [] []
  | star {cs : List Char} {p : Pattern} (h : Spells cs p) : Spells ('*' :: cs) (.run :: p)
  | plain {c : Char} {cs : List Char} {p : Pattern} (hstar : c ≠ '*') (hslash : c ≠ '\\')
      (h : Spells cs p) : Spells (c :: cs) (.literal c :: p)
  | escaped {c : Char} {cs : List Char} {p : Pattern} (hc : c ∈ ['*', '\\', ':', '-', '.', ','])
      (h : Spells cs p) : Spells ('\\' :: c :: cs) (.literal c :: p)

/-- What an element of a pattern takes of a text: a run any piece, a character just one that is
equal to it up to case. -/
def Takes : PatternPiece → List Char → Prop
  | .run, _ => True
  | .literal c, piece => ∃ d, piece = [d] ∧ fold c = fold d

/-- The text can be cut into consecutive pieces, one for each element of the pattern. -/
def HasCut (p : Pattern) (t : List Char) : Prop :=
  ∃ pieces, pieces.flatten = t ∧ List.Forall₂ Takes p pieces

section Grammar

variable {cs ds : List Char} {p q : Pattern}

theorem piece?_bare {c : Char} (hc : c ≠ '*') : piece? (.bare c) = some (.literal c) := by
  simp [piece?, Glyph.literal?, hc]

theorem piece?_escaped_eq_some_iff {c : Char} {x : PatternPiece} :
    piece? (.escaped c) = some x ↔ x = .literal c ∧ c ∈ ['*', '\\', ':', '-', '.', ','] := by
  rw [← isEscapable_iff]
  by_cases hc : isEscapable c <;> simp [piece?, Glyph.literal?, hc, eq_comm]

/-- The first element of a pattern is that of the first glyph. -/
theorem exists_cons_of_mapM {g : Glyph} {gs : List Glyph} (h : (g :: gs).mapM piece? = some p) :
    ∃ x q, p = x :: q ∧ piece? g = some x ∧ gs.mapM piece? = some q := by
  rw [Outcome.mapM_eq_some_iff, List.map_cons] at h
  obtain ⟨x, q, rfl, hx, hq⟩ := List.map_eq_cons_iff.1 h.symm
  exact ⟨x, q, rfl, hx.symm, Outcome.mapM_eq_some_iff.2 hq.symm⟩

theorem spells_of_ofText? (h : ofText? cs = some p) : Spells cs p := by
  rw [ofText?] at h
  fun_induction glyphs cs generalizing p with
  | case1 =>
    obtain rfl : [] = p := Option.some.inj h
    exact .nil
  | case2 => contradiction
  | case3 c cs ih =>
    obtain ⟨x, q, rfl, hx, hq⟩ := exists_cons_of_mapM h
    obtain ⟨rfl, hc⟩ := piece?_escaped_eq_some_iff.1 hx
    exact .escaped hc (ih hq)
  | case4 c cs hlast hpair ih =>
    obtain ⟨x, q, rfl, hx, hq⟩ := exists_cons_of_mapM h
    by_cases hstar : c = '*'
    · obtain rfl := hstar
      obtain rfl : .run = x := Option.some.inj hx
      exact .star (ih hq)
    · rw [piece?_bare hstar] at hx
      obtain rfl := Option.some.inj hx
      exact .plain hstar (ne_backslash hlast hpair) (ih hq)

theorem ofText?_of_spells (h : Spells cs p) : ofText? cs = some p := by
  -- Each rule of the grammar writes one glyph, which is read back whatever follows.
  have hcons {g : Glyph} {x : PatternPiece} {cs : List Char} {p : Pattern} (hg : g.IsComplete)
      (hx : piece? g = some x) (ih : ofText? cs = some p) :
      ofText? (g.written ++ cs) = some (x :: p) := by
    rw [ofText?] at ih ⊢
    rw [glyphs_written_append hg, List.mapM_cons, hx, ih]
    rfl
  induction h with
  | nil => rfl
  | star h ih =>
    have hg : (Glyph.bare '*').IsComplete := by
      intro h
      contradiction
    exact hcons hg rfl ih
  | @plain c cs p hstar hslash h ih =>
    have hg : (Glyph.bare c).IsComplete := hslash
    exact hcons hg (piece?_bare hstar) ih
  | @escaped c cs p hc h ih =>
    have hg : (Glyph.escaped c).IsComplete := trivial
    exact hcons hg (piece?_escaped_eq_some_iff.2 ⟨rfl, hc⟩) ih

theorem ofText?_eq_some_iff : ofText? cs = some p ↔ Spells cs p :=
  ⟨spells_of_ofText?, ofText?_of_spells⟩

theorem ofText?_eq_none_iff : ofText? cs = none ↔ HasBadEscape cs := by
  rw [ofText?, Outcome.mapM_eq_none_iff, ← exists_literal?_eq_none_iff]
  have hpiece (g : Glyph) : piece? g = none ↔ g.literal? = none := by
    by_cases hstar : g = .bare '*'
    · simp [hstar, piece?, Glyph.literal?]
    · simp [piece?]
  simp only [hpiece]

theorem exists_spells (h : ¬ HasBadEscape cs) : ∃ p, Spells cs p := by
  rw [← ofText?_eq_none_iff] at h
  obtain ⟨p, hp⟩ := Option.ne_none_iff_exists'.1 h
  exact ⟨p, ofText?_eq_some_iff.1 hp⟩

end Grammar

section Cut

variable {p : Pattern} {t : List Char}

theorem hasCut_nil_iff : HasCut [] t ↔ t = [] := by
  simp [HasCut, eq_comm]

/-- The first piece is what the first element takes; the rest is cut for the others. -/
theorem hasCut_cons_iff {x : PatternPiece} :
    HasCut (x :: p) t ↔ ∃ s r, t = s ++ r ∧ Takes x s ∧ HasCut p r := by
  simp only [HasCut, List.forall₂_cons_left_iff]
  constructor
  · intro h
    obtain ⟨_, rfl, s, pieces, hs, hpieces, rfl⟩ := h
    exact ⟨s, pieces.flatten, rfl, hs, pieces, rfl, hpieces⟩
  · intro h
    obtain ⟨s, _, rfl, hs, pieces, rfl, hpieces⟩ := h
    exact ⟨s :: pieces, rfl, s, pieces, hs, hpieces, rfl⟩

/-- A run stops only at a line feed, so that on one line it may take any piece. -/
theorem matches_iff_hasCut (ht : '\n' ∉ t) : p.Matches t ↔ p.HasCut t := by
  induction p generalizing t with
  | nil => rw [matches_nil_iff, hasCut_nil_iff]
  | cons x p ih =>
    rw [hasCut_cons_iff]
    cases x with
    | literal c =>
      rw [matches_literal_iff]
      constructor
      · intro h
        obtain ⟨d, r, rfl, hfold, hr⟩ := h
        exact ⟨[d], r, rfl, ⟨d, rfl, hfold⟩, (ih (List.not_mem_of_not_mem_cons ht)).1 hr⟩
      · intro h
        obtain ⟨_, r, rfl, ⟨d, rfl, hfold⟩, hr⟩ := h
        exact ⟨d, r, rfl, hfold, (ih (List.not_mem_of_not_mem_cons ht)).2 hr⟩
    | run =>
      rw [matches_run_iff]
      constructor
      · intro h
        obtain ⟨s, r, rfl, -, hr⟩ := h
        rw [List.mem_append, not_or] at ht
        exact ⟨s, r, rfl, trivial, (ih ht.2).1 hr⟩
      · intro h
        obtain ⟨s, r, rfl, -, hr⟩ := h
        rw [List.mem_append, not_or] at ht
        exact ⟨s, r, rfl, ht.1, (ih ht.2).2 hr⟩

end Cut

end Pattern

/-- A text without a bad escape is a pattern, and a value on one line suits it exactly when the
value can be cut into what its elements take. -/
theorem Matcher.text_accepts_iff_cut (today : Date) (key raw : String) {t : String}
    (ht : '\n' ∉ t.toList) :
    (ofText today key .text raw = .error (.escape raw) ↔ HasBadEscape raw.toList) ∧
      (¬ HasBadEscape raw.toList → ∃ p, Pattern.Spells raw.toList p ∧
        ofText today key .text raw = .ok (.pattern p) ∧
          ((pattern p).accepts (.text t) = true ↔ p.HasCut t.toList)) := by
  by_cases hbad : HasBadEscape raw.toList
  · have hread : Pattern.ofText? raw.toList = none := Pattern.ofText?_eq_none_iff.2 hbad
    have hfault : ofText today key .text raw = .error (.escape raw) := by
      rw [ofText, hread]
    exact ⟨iff_of_true hfault hbad, fun h => absurd hbad h⟩
  · obtain ⟨p, hp⟩ := Pattern.exists_spells hbad
    have hread : ofText today key .text raw = .ok (.pattern p) := by
      rw [ofText, Pattern.ofText?_eq_some_iff.2 hp]
    have haccepts : (pattern p).accepts (.text t) = true ↔ p.HasCut t.toList := by
      rw [accepts, Pattern.matchesText_iff, Pattern.matches_iff_hasCut ht]
    refine ⟨iff_of_false ?_ hbad, fun _ => ⟨p, hp, hread, haccepts⟩⟩
    intro hfault
    rw [hread] at hfault
    contradiction

/-- The Kelvin sign is a letter like any other, a bracket means nothing, and only the first of the
two stars is a run. -/
theorem Matcher.text_accepts_iff_cut_kelvin :
    let raw := "\u212A(*.\\*"
    let t := "k(ab.*"
    '\n' ∉ t.toList ∧ ¬ HasBadEscape raw.toList ∧
      ∃ p, ofText ⟨2024, 6, 15⟩ "name" .text raw = .ok (.pattern p) ∧
        (pattern p).accepts (.text t) = true := by
  intro raw t
  have ht : '\n' ∉ t.toList := by decide
  have hraw : Pattern.ofText? raw.toList =
      some [.literal '\u212A', .literal '(', .run, .literal '.', .literal '*'] := by decide
  have hgood : ¬ HasBadEscape raw.toList := by decide
  obtain ⟨p, hp, hread, haccepts⟩ := (text_accepts_iff_cut ⟨2024, 6, 15⟩ "name" raw ht).2 hgood
  refine ⟨ht, hgood, p, hread, haccepts.2 ?_⟩
  obtain rfl := Option.some.inj (hraw.symm.trans (Pattern.ofText?_of_spells hp))
  have hcut : [['k'], ['('], ['a', 'b'], ['.'], ['*']].flatten = t.toList := by decide
  have hkelvin : fold '\u212A' = fold 'k' := by decide
  exact ⟨_, hcut, .cons ⟨_, rfl, hkelvin⟩ (.cons ⟨_, rfl, rfl⟩ (.cons trivial
    (.cons ⟨_, rfl, rfl⟩ (.cons ⟨_, rfl, rfl⟩ .nil))))⟩

end EntitySearch
