import EntitySearch.Proofs.Escape

/-!
Which characters of a text are escaped. The glyphs are read from the left, two characters for each
backslash; whether a character is escaped can also be told from what stands right before it, by the
number of backslashes there (`isComplete_glyphs_iff`). A text has no meaning exactly when it has a
backslash, not escaped itself, at its end or before a character that may not be escaped
(`unescape?_eq_none_iff`).
-/

namespace EntitySearch.Text

/-- How many backslashes the text ends with. -/
def trailingBackslashes (cs : List Char) : Nat := (cs.reverse.takeWhile (· == '\\')).length

/-- A character behind the text is escaped: an odd number of backslashes stands before it. -/
def EscapesNext (cs : List Char) : Prop := trailingBackslashes cs % 2 = 1

instance (cs : List Char) : Decidable (EscapesNext cs) := inferInstanceAs (Decidable (_ = _))

/-- A backslash, not escaped itself, ends the text or stands before a character other than
`* \ : - . ,`. -/
def HasBadEscape (cs : List Char) : Prop :=
  ∃ before after, cs = before ++ '\\' :: after ∧ ¬ EscapesNext before ∧
    ∀ c ∈ after.head?, c ∉ ['*', '\\', ':', '-', '.', ',']

section Parity

variable {cs ds : List Char}

theorem trailingBackslashes_append (cs ds : List Char) :
    trailingBackslashes (cs ++ ds) =
      if trailingBackslashes ds = ds.length then ds.length + trailingBackslashes cs
      else trailingBackslashes ds := by
  simp only [trailingBackslashes, List.reverse_append, List.takeWhile_append, List.length_reverse,
    apply_ite List.length, List.length_append]
  rfl

/-- Backslashes in pairs change nothing for what comes later. -/
theorem escapesNext_append_iff (h : ¬ EscapesNext cs) :
    EscapesNext (cs ++ ds) ↔ EscapesNext ds := by
  simp only [EscapesNext, trailingBackslashes_append] at h ⊢
  split <;> omega

theorem not_escapesNext_pair (c : Char) : ¬ EscapesNext ['\\', c] := by
  by_cases hc : c = '\\'
  · rw [hc]
    decide
  · simp [EscapesNext, trailingBackslashes, hc]

theorem not_escapesNext_singleton {c : Char} (hc : c ≠ '\\') : ¬ EscapesNext [c] := by
  simp [EscapesNext, trailingBackslashes, hc]

theorem ne_backslash {c : Char} (hlast : c = '\\' → cs = [] → False)
    (hpair : ∀ d ds, c = '\\' → cs = d :: ds → False) : c ≠ '\\' := by
  intro hc
  cases cs with
  | nil => exact hlast hc rfl
  | cons d ds => exact hpair d ds hc rfl

/-- Only a backslash that escapes what comes next leaves the last glyph open. -/
theorem isComplete_glyphs_iff : (∀ g ∈ glyphs cs, g.IsComplete) ↔ ¬ EscapesNext cs := by
  fun_induction glyphs cs with
  | case1 => simp [EscapesNext, trailingBackslashes]
  | case2 => simp [Glyph.IsComplete, EscapesNext, trailingBackslashes]
  | case3 c cs ih =>
    have hrest : EscapesNext ('\\' :: c :: cs) ↔ EscapesNext cs :=
      escapesNext_append_iff (not_escapesNext_pair c)
    rw [List.forall_mem_cons, hrest, ih]
    exact and_iff_right trivial
  | case4 c cs hlast hpair ih =>
    have hc : c ≠ '\\' := ne_backslash hlast hpair
    have hrest : EscapesNext (c :: cs) ↔ EscapesNext cs :=
      escapesNext_append_iff (not_escapesNext_singleton hc)
    rw [List.forall_mem_cons, hrest, ih]
    exact and_iff_right hc

theorem glyphs_append (h : ¬ EscapesNext cs) (ds : List Char) :
    glyphs (cs ++ ds) = glyphs cs ++ glyphs ds := by
  rw [← glyphs_writeGlyphs_append (isComplete_glyphs_iff.2 h), writeGlyphs_glyphs]

/-- Between two texts of which the first has its escapes to itself, no escape is lost or won. -/
theorem unescape?_append (h : ¬ EscapesNext cs) (ds : List Char) :
    unescape? (cs ++ ds) = do return (← unescape? cs) ++ (← unescape? ds) := by
  rw [unescape?, glyphs_append h, List.mapM_append]
  rfl

end Parity

section Places

variable {cs : List Char} {g : Glyph}

/-- What stands before a glyph in the text does not escape it. -/
theorem exists_of_mem_glyphs (h : g ∈ glyphs cs) :
    ∃ before after, cs = before ++ g.written ++ after ∧ ¬ EscapesNext before ∧
      (g = .dangling → after = []) := by
  -- A glyph of the rest stands behind what the first one takes.
  have hbehind {first rest : List Char} (hfirst : ¬ EscapesNext first)
      (hrest : ∃ before after, rest = before ++ g.written ++ after ∧ ¬ EscapesNext before ∧
        (g = .dangling → after = [])) :
      ∃ before after, first ++ rest = before ++ g.written ++ after ∧ ¬ EscapesNext before ∧
        (g = .dangling → after = []) := by
    obtain ⟨before, after, rfl, hbefore, hend⟩ := hrest
    refine ⟨first ++ before, after, by simp, ?_, hend⟩
    rwa [escapesNext_append_iff hfirst]
  fun_induction glyphs cs with
  | case1 => contradiction
  | case2 =>
    obtain rfl := List.mem_singleton.1 h
    exact ⟨[], [], rfl, by decide, fun _ => rfl⟩
  | case3 c cs ih =>
    rcases List.mem_cons.1 h with rfl | h
    · refine ⟨[], cs, rfl, by decide, ?_⟩
      intro h
      contradiction
    · exact hbehind (not_escapesNext_pair c) (ih h)
  | case4 c cs hlast hpair ih =>
    rcases List.mem_cons.1 h with rfl | h
    · refine ⟨[], cs, rfl, by decide, ?_⟩
      intro h
      contradiction
    · exact hbehind (not_escapesNext_singleton (ne_backslash hlast hpair)) (ih h)

theorem isEscapable_iff {c : Char} :
    isEscapable c = true ↔ c ∈ ['*', '\\', ':', '-', '.', ','] :=
  List.contains_iff_mem

theorem Glyph.literal?_eq_none_iff :
    g.literal? = none ↔ g = .dangling ∨ ∃ c, g = .escaped c ∧ ¬ isEscapable c = true := by
  cases g <;> simp [Glyph.literal?]

/-- An escape without a meaning is found by looking at the text alone. -/
theorem exists_literal?_eq_none_iff : (∃ g ∈ glyphs cs, g.literal? = none) ↔ HasBadEscape cs := by
  constructor
  · intro h
    obtain ⟨g, hg, hliteral⟩ := h
    obtain ⟨before, after, rfl, hbefore, hend⟩ := exists_of_mem_glyphs hg
    rcases Glyph.literal?_eq_none_iff.1 hliteral with rfl | ⟨c, rfl, hc⟩
    · refine ⟨before, [], by rw [hend rfl]; simp [Glyph.written], hbefore, ?_⟩
      intro c hc
      contradiction
    · refine ⟨before, c :: after, by simp [Glyph.written], hbefore, ?_⟩
      rw [isEscapable_iff] at hc
      simpa using hc
  · intro h
    obtain ⟨before, after, rfl, hbefore, hafter⟩ := h
    simp only [glyphs_append hbefore, List.mem_append]
    cases after with
    | nil => exact ⟨.dangling, .inr (List.mem_singleton_self _), rfl⟩
    | cons c after =>
      refine ⟨.escaped c, .inr (List.mem_cons_self ..), ?_⟩
      exact Glyph.literal?_eq_none_iff.2 (.inr ⟨c, rfl, mt isEscapable_iff.1 (hafter c rfl)⟩)

theorem unescape?_eq_none_iff : unescape? cs = none ↔ HasBadEscape cs := by
  rw [unescape?, Outcome.mapM_eq_none_iff, exists_literal?_eq_none_iff]

/-- A backslash that would escape the next character has none to escape. -/
theorem hasBadEscape_of_escapesNext (h : EscapesNext cs) : HasBadEscape cs := by
  rcases List.eq_nil_or_concat cs with rfl | ⟨before, c, rfl⟩
  · exact absurd h (by decide)
  · by_cases hc : c = '\\'
    · have hodd : (trailingBackslashes before + 1) % 2 = 1 := by
        subst hc
        simpa [EscapesNext, trailingBackslashes] using h
      refine ⟨before, [], by rw [hc, List.concat_eq_append], ?_, nofun⟩
      rw [EscapesNext]
      omega
    · have hnone : trailingBackslashes (before.concat c) = 0 := by
        simp [trailingBackslashes, hc]
      rw [EscapesNext, hnone] at h
      contradiction

theorem not_escapesNext_of_unescape? (h : unescape? cs ≠ none) : ¬ EscapesNext cs :=
  fun hnext => h (unescape?_eq_none_iff.2 (hasBadEscape_of_escapesNext hnext))

theorem not_escapesNext_of_plain (h : '\\' ∉ cs) : ¬ EscapesNext cs := by
  apply not_escapesNext_of_unescape?
  rw [unescape?_of_plain h]
  exact Option.some_ne_none cs

instance (cs : List Char) : Decidable (HasBadEscape cs) :=
  decidable_of_iff (unescape? cs = none) unescape?_eq_none_iff

end Places

end EntitySearch.Text
