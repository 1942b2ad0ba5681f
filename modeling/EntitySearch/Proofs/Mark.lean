import EntitySearch.Proofs.Backslash

/-!
Marks between the parts of a text. A mark counts where it is not escaped, where an even number of
backslashes stands before it. The text is cut at the first such place (`cutBare?_eq_some_iff`) and
split at all of them (`splitBare_eq_iff`), so that parts with marks between them are found again.
-/

namespace EntitySearch.Text

/-- The mark stands in the text at a place where it is not escaped. -/
def HasBare (mark cs : List Char) : Prop :=
  ∃ before after, cs = before ++ mark ++ after ∧ ¬ EscapesNext before

/-- The parts before and after the first mark that is not escaped. -/
structure FirstCut (mark cs before after : List Char) : Prop where
  joined : cs = before ++ mark ++ after
  bare : ¬ EscapesNext before
  first : ∀ before' after', cs = before' ++ mark ++ after' → ¬ EscapesNext before' →
    before.length ≤ before'.length

/-- The parts between all marks that are not escaped. -/
structure FullSplit (c : Char) (cs : List Char) (parts : List (List Char)) : Prop where
  ne_nil : parts ≠ []
  joined : [c].intercalate parts = cs
  unmarked : ∀ part ∈ parts, ¬ HasBare [c] part
  bare : ∀ part ∈ parts.dropLast, ¬ EscapesNext part

section Glyphs

variable {cs mark : List Char} {gs hs : List Glyph}

theorem writeGlyphs_append (gs hs : List Glyph) :
    writeGlyphs (gs ++ hs) = writeGlyphs gs ++ writeGlyphs hs :=
  List.flatMap_append

theorem glyphs_writeGlyphs (h : ∀ g ∈ gs, g.IsComplete) : glyphs (writeGlyphs gs) = gs := by
  simpa [glyphs] using glyphs_writeGlyphs_append h []

/-- Only the last glyph of a text can be a backslash with nothing behind it. -/
theorem isComplete_of_glyphs_eq (hne : hs ≠ []) (h : glyphs cs = gs ++ hs) :
    ∀ g ∈ gs, g.IsComplete := by
  fun_induction glyphs cs generalizing gs with
  | case1 =>
    obtain ⟨rfl, -⟩ := List.nil_eq_append_iff.1 h
    simp
  | case2 =>
    rcases List.singleton_eq_append_iff.1 h with ⟨rfl, -⟩ | ⟨-, hnil⟩
    · simp
    · exact absurd hnil hne
  | case3 c cs ih =>
    rcases List.cons_eq_append_iff.1 h with ⟨rfl, -⟩ | ⟨gs', rfl, hrest⟩
    · simp
    · exact List.forall_mem_cons.2 ⟨trivial, ih hrest⟩
  | case4 c cs hlast hpair ih =>
    rcases List.cons_eq_append_iff.1 h with ⟨rfl, -⟩ | ⟨gs', rfl, hrest⟩
    · simp
    · exact List.forall_mem_cons.2 ⟨ne_backslash hlast hpair, ih hrest⟩

/-- Where the glyphs of a text are cut, the text is cut at a place that is not escaped. -/
theorem exists_of_glyphs_eq (hne : hs ≠ []) (h : glyphs cs = gs ++ hs) :
    ∃ before after, cs = before ++ after ∧ ¬ EscapesNext before ∧ gs = glyphs before ∧
      hs = glyphs after := by
  have hcomplete := isComplete_of_glyphs_eq hne h
  have hgs : glyphs (writeGlyphs gs) = gs := glyphs_writeGlyphs hcomplete
  have hcs : cs = writeGlyphs gs ++ writeGlyphs hs := by
    rw [← writeGlyphs_append, ← h, writeGlyphs_glyphs]
  refine ⟨writeGlyphs gs, writeGlyphs hs, hcs, ?_, hgs.symm, ?_⟩
  · rw [← isComplete_glyphs_iff, hgs]
    exact hcomplete
  · rw [hcs, glyphs_writeGlyphs_append hcomplete] at h
    exact (List.append_cancel_left h).symm

theorem glyphs_append_mark {before after : List Char} (hmark : '\\' ∉ mark)
    (hbefore : ¬ EscapesNext before) :
    glyphs (before ++ mark ++ after) = glyphs before ++ (mark.map .bare ++ glyphs after) := by
  rw [List.append_assoc, glyphs_append hbefore, glyphs_append_of_plain hmark]

/-- A mark among the glyphs is a mark in the text that is not escaped. -/
theorem exists_of_glyphs_eq_mark (hne : mark ≠ []) (hmark : '\\' ∉ mark)
    (h : glyphs cs = gs ++ (mark.map .bare ++ hs)) :
    ∃ before after, cs = before ++ mark ++ after ∧ ¬ EscapesNext before ∧ gs = glyphs before ∧
      hs = glyphs after := by
  have hne' : mark.map Glyph.bare ++ hs ≠ [] := by simp [hne]
  obtain ⟨before, rest, rfl, hbefore, hgs, hrest⟩ := exists_of_glyphs_eq hne' h
  have hafter : rest = mark ++ writeGlyphs hs := by
    rw [← writeGlyphs_glyphs rest, ← hrest, writeGlyphs_append, writeGlyphs_map_bare]
  refine ⟨before, writeGlyphs hs, by rw [hafter, List.append_assoc], hbefore, hgs, ?_⟩
  rw [hafter, glyphs_append_of_plain hmark] at hrest
  exact List.append_cancel_left hrest

end Glyphs

section Occurrence

variable {c : Char} {mark before after : List Char}

/-- A mark in two texts with another character between them stands in one of the two. -/
theorem HasBare.of_append (hc : c ≠ '\\') (hne : mark ≠ []) (hmem : c ∉ mark)
    (hbefore : ¬ EscapesNext before) (h : HasBare mark (before ++ [c] ++ after)) :
    HasBare mark before ∨ HasBare mark after := by
  obtain ⟨left, right, hjoined, hleft⟩ := h
  rw [List.append_assoc, List.append_assoc] at hjoined
  rcases List.append_eq_append_iff.1 hjoined with ⟨gap, rfl, hrest⟩ | ⟨gap, rfl, hrest⟩
  · -- The mark begins behind the first text.
    rcases List.cons_eq_append_iff.1 hrest with ⟨rfl, hmark⟩ | ⟨gap, rfl, hafter⟩
    · obtain ⟨d, mark, rfl⟩ := List.exists_cons_of_ne_nil hne
      exact absurd (List.cons.inj hmark).1 (List.ne_and_not_mem_of_not_mem_cons hmem).1.symm
    · refine .inr ⟨gap, right, by rw [List.append_assoc]; exact hafter, ?_⟩
      have hgap : EscapesNext (c :: gap) ↔ EscapesNext gap :=
        escapesNext_append_iff (not_escapesNext_singleton hc)
      rwa [escapesNext_append_iff hbefore, hgap] at hleft
  · -- The mark begins in the first text, and cannot reach over the character behind it.
    rcases List.append_eq_append_iff.1 hrest with ⟨gap', rfl, -⟩ | ⟨gap', rfl, hover⟩
    · exact .inl ⟨left, gap', by rw [List.append_assoc], hleft⟩
    · cases gap' with
      | nil => exact .inl ⟨left, [], by simp, hleft⟩
      | cons d gap' =>
        obtain ⟨rfl, -⟩ := List.cons.inj hover
        exact absurd (by simp) hmem

end Occurrence

section Cut

variable {cs mark before after : List Char} {gs hs hs' : List Glyph}

/-- The mark stands at the cut, and at no place further to the left. -/
theorem leftmost_of_cutGlyphs? (h : cutGlyphs? mark gs = some (hs, hs')) :
    gs = hs ++ (mark.map .bare ++ hs') ∧
      ∀ is is', gs = is ++ (mark.map .bare ++ is') → hs <+: is := by
  induction gs generalizing hs with
  | nil => contradiction
  | cons g gs ih =>
    rw [cutGlyphs?] at h
    split at h
    · next hprefix =>
      obtain ⟨rfl, rfl⟩ := Prod.mk.inj (Option.some.inj h)
      obtain ⟨rest, hrest⟩ := List.isPrefixOf_iff_prefix.1 hprefix
      refine ⟨?_, fun _ _ _ => List.nil_prefix⟩
      rw [← hrest, List.nil_append, ← List.length_map (f := Glyph.bare), List.drop_left]
    · next hprefix =>
      obtain ⟨⟨hs, _⟩, hcut, hpair⟩ := Option.map_eq_some_iff.1 h
      obtain ⟨rfl, rfl⟩ := Prod.mk.inj hpair
      obtain ⟨rfl, hleast⟩ := ih hcut
      refine ⟨rfl, fun is is' his => ?_⟩
      -- The mark does not stand at the front, so every place of it lies behind the first glyph.
      rcases List.cons_eq_append_iff.1 his with ⟨rfl, hfront⟩ | ⟨is, rfl, hrest⟩
      · exact absurd (List.isPrefixOf_iff_prefix.2 ⟨is', hfront⟩) hprefix
      · exact (List.prefix_cons_inj g).2 (hleast is is' hrest)

theorem cutGlyphs?_append_ne_none (hne : mark ≠ []) (hs hs' : List Glyph) :
    cutGlyphs? mark (hs ++ (mark.map .bare ++ hs')) ≠ none := by
  induction hs with
  | nil =>
    obtain ⟨c, mark, rfl⟩ := List.exists_cons_of_ne_nil hne
    simp [cutGlyphs?]
  | cons g hs ih =>
    rw [List.cons_append, cutGlyphs?]
    split
    · simp
    · simpa using ih

theorem cutBare?_eq_none_iff (hne : mark ≠ []) (hmark : '\\' ∉ mark) :
    cutBare? mark cs = none ↔ ¬ HasBare mark cs := by
  rw [cutBare?, Option.map_eq_none_iff]
  constructor
  · intro h hbare
    obtain ⟨before, after, rfl, hbefore⟩ := hbare
    rw [glyphs_append_mark hmark hbefore] at h
    exact cutGlyphs?_append_ne_none hne _ _ h
  · intro h
    cases hcut : cutGlyphs? mark (glyphs cs) with
    | none => rfl
    | some parts =>
      obtain ⟨before, after, hcs, hbefore, -, -⟩ :=
        exists_of_glyphs_eq_mark hne hmark (leftmost_of_cutGlyphs? hcut).1
      exact absurd ⟨before, after, hcs, hbefore⟩ h

theorem firstCut_of_cutBare? (hne : mark ≠ []) (hmark : '\\' ∉ mark)
    (h : cutBare? mark cs = some (before, after)) : FirstCut mark cs before after := by
  obtain ⟨⟨hs, hs'⟩, hcut, hpair⟩ := Option.map_eq_some_iff.1 h
  obtain ⟨hcs, hleast⟩ := leftmost_of_cutGlyphs? hcut
  obtain ⟨b, a, rfl, hb, rfl, rfl⟩ := exists_of_glyphs_eq_mark hne hmark hcs
  simp only [writeGlyphs_glyphs, Prod.mk.injEq] at hpair
  obtain ⟨rfl, rfl⟩ := hpair
  refine ⟨rfl, hb, fun before' after' hcs' hbefore' => ?_⟩
  rw [hcs'] at hleast
  obtain ⟨rest, hrest⟩ := hleast _ _ (glyphs_append_mark hmark hbefore')
  -- What the first glyphs write is the beginning of what all of them write.
  have hwritten : before' = b ++ writeGlyphs rest := by
    rw [← writeGlyphs_glyphs before', ← hrest, writeGlyphs_append, writeGlyphs_glyphs]
  rw [hwritten, List.length_append]
  exact Nat.le_add_right _ _

theorem FirstCut.unique {before' after' : List Char} (h : FirstCut mark cs before after)
    (h' : FirstCut mark cs before' after') : before = before' ∧ after = after' := by
  have hlength : before.length = before'.length :=
    Nat.le_antisymm (h.first _ _ h'.joined h'.bare) (h'.first _ _ h.joined h.bare)
  have hjoined : before ++ (mark ++ after) = before' ++ (mark ++ after') := by
    rw [← List.append_assoc, ← h.joined, h'.joined, List.append_assoc]
  obtain ⟨hbefore, hrest⟩ := List.append_inj hjoined hlength
  exact ⟨hbefore, List.append_cancel_left hrest⟩

theorem cutBare?_eq_some_iff (hne : mark ≠ []) (hmark : '\\' ∉ mark) :
    cutBare? mark cs = some (before, after) ↔ FirstCut mark cs before after := by
  refine ⟨firstCut_of_cutBare? hne hmark, fun h => ?_⟩
  cases hcut : cutBare? mark cs with
  | none => exact absurd ⟨_, _, h.joined, h.bare⟩ ((cutBare?_eq_none_iff hne hmark).1 hcut)
  | some parts =>
    obtain ⟨rfl, rfl⟩ := h.unique (firstCut_of_cutBare? hne hmark hcut)
    rfl

theorem HasBare.exists_firstCut (hne : mark ≠ []) (hmark : '\\' ∉ mark) (h : HasBare mark cs) :
    ∃ before after, FirstCut mark cs before after := by
  cases hcut : cutBare? mark cs with
  | none => exact absurd h ((cutBare?_eq_none_iff hne hmark).1 hcut)
  | some parts => exact ⟨parts.1, parts.2, firstCut_of_cutBare? hne hmark hcut⟩

/-- A text is cut at its first mark, and what is behind that mark is a shorter text. -/
theorem induction_on_cuts {motive : List Char → Prop} (hne : mark ≠ []) (hmark : '\\' ∉ mark)
    (uncut : ∀ cs, cutBare? mark cs = none → motive cs)
    (cut : ∀ before after, FirstCut mark (before ++ mark ++ after) before after → motive after →
      motive (before ++ mark ++ after)) (cs : List Char) : motive cs := by
  induction hn : cs.length using Nat.strongRecOn generalizing cs with
  | ind n ih =>
    cases hcut : cutBare? mark cs with
    | none => exact uncut cs hcut
    | some parts =>
      obtain ⟨before, after⟩ := parts
      have hfirst := (cutBare?_eq_some_iff hne hmark).1 hcut
      obtain rfl := hfirst.joined
      have hpos : 0 < mark.length := List.length_pos_iff.2 hne
      have hlt : after.length < n := by
        rw [← hn, List.length_append, List.length_append]
        omega
      exact cut before after hfirst (ih after.length hlt after rfl)

theorem FirstCut.not_hasBare (hne : mark ≠ []) (h : FirstCut mark cs before after) :
    ¬ HasBare mark before := by
  intro hbare
  obtain ⟨left, right, hbefore, hleft⟩ := hbare
  have hle : before.length ≤ left.length := by
    refine h.first left (right ++ mark ++ after) ?_ hleft
    rw [h.joined, hbefore]
    simp
  have hpos : 0 < mark.length := List.length_pos_iff.2 hne
  rw [hbefore, List.length_append, List.length_append] at hle
  omega

end Cut

section Split

variable {c : Char} {cs before after : List Char} {parts : List (List Char)}

theorem hasBare_singleton_iff (hc : c ≠ '\\') : HasBare [c] cs ↔ .bare c ∈ glyphs cs := by
  have hmark : '\\' ∉ [c] := by simpa using hc.symm
  constructor
  · intro h
    obtain ⟨before, after, rfl, hbefore⟩ := h
    rw [glyphs_append_mark hmark hbefore]
    simp
  · intro h
    obtain ⟨gs, hs, hcs⟩ := List.append_of_mem h
    obtain ⟨before, after, hcs, hbefore, -, -⟩ :=
      exists_of_glyphs_eq_mark (List.cons_ne_nil c []) hmark hcs
    exact ⟨before, after, hcs, hbefore⟩

/-- The first mark ends the first part, and the rest is split by itself. -/
theorem splitBare_append (hc : c ≠ '\\') (hbefore : ¬ EscapesNext before)
    (hbare : ¬ HasBare [c] before) (after : List Char) :
    splitBare c (before ++ [c] ++ after) = before :: splitBare c after := by
  have hmark : '\\' ∉ [c] := by simpa using hc.symm
  have hfirst : .bare c ∉ glyphs before := mt (hasBare_singleton_iff hc).2 hbare
  have hglyphs : glyphs (before ++ [c] ++ after) = glyphs before ++ .bare c :: glyphs after :=
    glyphs_append_mark hmark hbefore
  rw [splitBare, hglyphs, List.splitOn_append_cons_self_of_not_mem hfirst, List.map_cons,
    writeGlyphs_glyphs]
  rfl

theorem splitBare_of_not_hasBare (hc : c ≠ '\\') (h : ¬ HasBare [c] cs) :
    splitBare c cs = [cs] :=
  splitBare_eq_singleton (mt (hasBare_singleton_iff hc).2 h)

theorem fullSplit_splitBare (hc : c ≠ '\\') (cs : List Char) : FullSplit c cs (splitBare c cs) := by
  have hne : [c] ≠ [] := List.cons_ne_nil c []
  have hmark : '\\' ∉ [c] := by simpa using hc.symm
  induction cs using induction_on_cuts hne hmark with
  | uncut cs hcut =>
    have h : ¬ HasBare [c] cs := (cutBare?_eq_none_iff hne hmark).1 hcut
    rw [splitBare_of_not_hasBare hc h]
    constructor <;> simp [h]
  | cut before after hfirst hafter =>
    have hbare : ¬ HasBare [c] before := hfirst.not_hasBare hne
    obtain ⟨part, parts, hsplit⟩ := List.exists_cons_of_ne_nil hafter.ne_nil
    rw [splitBare_append hc hfirst.bare hbare]
    constructor
    · exact List.cons_ne_nil before (splitBare c after)
    · rw [hsplit, List.intercalate_cons_cons, ← hsplit, hafter.joined]
    · exact List.forall_mem_cons.2 ⟨hbare, hafter.unmarked⟩
    · rw [hsplit, List.dropLast_cons_cons, ← hsplit]
      exact List.forall_mem_cons.2 ⟨hfirst.bare, hafter.bare⟩

theorem one_lt_length_splitBare_iff (hc : c ≠ '\\') :
    1 < (splitBare c cs).length ↔ HasBare [c] cs := by
  constructor
  · intro hlength
    by_contra h
    rw [splitBare_of_not_hasBare hc h] at hlength
    exact Nat.lt_irrefl 1 hlength
  · intro h
    have hne : [c] ≠ [] := List.cons_ne_nil c []
    obtain ⟨before, after, hfirst⟩ := h.exists_firstCut hne (by simpa using hc.symm)
    obtain rfl := hfirst.joined
    rw [splitBare_append hc hfirst.bare (hfirst.not_hasBare hne), List.length_cons]
    have hpos : 0 < (splitBare c after).length := by
      simp [List.length_pos_iff, splitBare]
    omega

theorem splitBare_intercalate (hc : c ≠ '\\') (hne : parts ≠ [])
    (hunmarked : ∀ part ∈ parts, ¬ HasBare [c] part)
    (hbare : ∀ part ∈ parts.dropLast, ¬ EscapesNext part) :
    splitBare c ([c].intercalate parts) = parts := by
  induction parts with
  | nil => exact absurd rfl hne
  | cons part parts ih =>
    obtain ⟨hpart, hparts⟩ := List.forall_mem_cons.1 hunmarked
    cases parts with
    | nil => rw [List.intercalate_singleton, splitBare_of_not_hasBare hc hpart]
    | cons part' parts =>
      obtain ⟨hcut, hcuts⟩ := List.forall_mem_cons.1 hbare
      rw [List.intercalate_cons_cons, splitBare_append hc hcut hpart,
        ih (List.cons_ne_nil part' parts) hparts hcuts]

theorem splitBare_eq_iff (hc : c ≠ '\\') : splitBare c cs = parts ↔ FullSplit c cs parts := by
  constructor
  · rintro rfl
    exact fullSplit_splitBare hc cs
  · intro h
    rw [← h.joined, splitBare_intercalate hc h.ne_nil h.unmarked h.bare]

theorem not_hasBare_intercalate {mark : List Char} (hc : c ≠ '\\') (hne : mark ≠ [])
    (hmark : '\\' ∉ mark) (hmem : c ∉ mark) (hbare : ∀ part ∈ parts, ¬ EscapesNext part)
    (hparts : ∀ part ∈ parts, ¬ HasBare mark part) :
    ¬ HasBare mark ([c].intercalate parts) := by
  induction parts with
  | nil => exact (cutBare?_eq_none_iff hne hmark).1 rfl
  | cons part parts ih =>
    obtain ⟨hpart, hbare⟩ := List.forall_mem_cons.1 hbare
    obtain ⟨hfirst, hrest⟩ := List.forall_mem_cons.1 hparts
    cases parts with
    | nil => rwa [List.intercalate_singleton]
    | cons next parts =>
      rw [List.intercalate_cons_cons]
      intro h
      exact (h.of_append hc hne hmem hpart).elim hfirst (ih hbare hrest)

end Split

end EntitySearch.Text
