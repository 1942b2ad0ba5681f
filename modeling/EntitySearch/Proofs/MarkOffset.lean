import EntitySearch.Proofs.Mark

/-!
Marks found by their offsets in bytes. One scan from left to right, which remembers whether the next
character is escaped and up to which offset a mark has been passed over, finds the places at which a
text is cut (`findsCut`). Cut out by these offsets, the parts are those between the marks that are
not escaped (`cutByOffset?_eq`, `splitByOffset?_eq`). Each part has its escapes to itself, so that
escapes may be removed before the text is cut or after it (`unescape?_intercalate`).
-/

namespace EntitySearch.Text

/-- How many bytes the characters take in UTF-8. -/
def byteLength : List Char → Nat
  | [] => 0
  | c :: cs => c.utf8Size + byteLength cs

/-- The offsets at which the mark stands and is not escaped, the text itself beginning at `offset`.
Before the offset `skip` no mark begins. -/
def markOffsetsFrom (mark : List Char) (escaped : Bool) (skip offset : Nat) : List Char → List Nat
  | [] => []
  | c :: cs =>
    let next := offset + c.utf8Size
    if offset < skip then markOffsetsFrom mark escaped skip next cs
    else if escaped then markOffsetsFrom mark false skip next cs
    else if c = '\\' then markOffsetsFrom mark true skip next cs
    else if mark.isPrefixOf (c :: cs) then
      offset :: markOffsetsFrom mark escaped (offset + byteLength mark) next cs
    else markOffsetsFrom mark escaped skip next cs

def markOffsets (mark cs : List Char) : List Nat := markOffsetsFrom mark false 0 0 cs

/-- The characters before the offset and those from it on. An offset within a character has no such
parts, nor has one past the end. -/
def cutAtByte? (n : Nat) : List Char → Option (List Char × List Char)
  | [] => if n = 0 then some ([], []) else none
  | c :: cs =>
    if n = 0 then some ([], c :: cs)
    else if c.utf8Size ≤ n then
      (cutAtByte? (n - c.utf8Size) cs).map fun (before, after) => (c :: before, after)
    else none

/-- The characters from the one offset up to the other. -/
def slice? (first stop : Nat) (cs : List Char) : Option (List Char) := do
  let (before, _) ← cutAtByte? stop cs
  let (_, part) ← cutAtByte? first before
  return part

/-- The parts before and after the first mark, if there is one. A failure is an offset that is no
place to cut at. -/
def cutByOffset? (mark cs : List Char) : Option (Option (List Char × List Char)) :=
  match markOffsets mark cs with
  | [] => some none
  | p :: _ => do
    let before ← slice? 0 p cs
    let after ← slice? (p + byteLength mark) (byteLength cs) cs
    return some (before, after)

/-- The parts from `first` on, with marks of some width between them at the offsets. -/
def slices? (width : Nat) (cs : List Char) (first : Nat) : List Nat → Option (List (List Char))
  | [] => do return [← slice? first (byteLength cs) cs]
  | p :: ps => do return (← slice? first p cs) :: (← slices? width cs (p + width) ps)

/-- The parts between all marks. -/
def splitByOffset? (mark : Char) (cs : List Char) : Option (List (List Char)) :=
  slices? mark.utf8Size cs 0 (markOffsets [mark] cs)

/-- The offset lies among the bytes of a backslash, not escaped itself, and the next character. -/
def WithinEscape (cs : List Char) (n : Nat) : Prop :=
  ∃ before c after, cs = before ++ '\\' :: c :: after ∧ ¬ EscapesNext before ∧
    byteLength before < n ∧ n < byteLength (before ++ ['\\', c])

section Bytes

variable {front : List Char}

@[simp] theorem byteLength_nil : byteLength [] = 0 := rfl

@[simp] theorem byteLength_cons (c : Char) (cs : List Char) :
    byteLength (c :: cs) = c.utf8Size + byteLength cs := rfl

@[simp] theorem byteLength_append (cs ds : List Char) :
    byteLength (cs ++ ds) = byteLength cs + byteLength ds := by
  induction cs with
  | nil => simp
  | cons c cs ih => simp [ih, Nat.add_assoc]

theorem byteLength_eq (cs : List Char) : byteLength cs = (String.ofList cs).utf8ByteSize := by
  induction cs with
  | nil => rfl
  | cons c cs ih =>
    have hcons : String.ofList (c :: cs) = String.singleton c ++ String.ofList cs := by
      rw [String.singleton_eq_ofList, ← String.ofList_append]
      rfl
    rw [hcons, String.utf8ByteSize_append, String.utf8ByteSize_singleton, byteLength_cons, ih]

/-- Behind any of its characters a text can be cut. -/
theorem isValid_byteLength (front back : List Char) :
    (String.Pos.Raw.mk (byteLength front)).IsValid (String.ofList (front ++ back)) := by
  have hend : String.Pos.Raw.mk (byteLength front) = (String.ofList front).rawEndPos := by
    rw [byteLength_eq]
    rfl
  rw [String.ofList_append, hend]
  exact String.Pos.Raw.isValid_rawEndPos.append_right _

theorem cutAtByte?_append (front back : List Char) :
    cutAtByte? (byteLength front) (front ++ back) = some (front, back) := by
  induction front with
  | nil => cases back <;> simp [cutAtByte?]
  | cons c front ih =>
    have hpos : c.utf8Size + byteLength front ≠ 0 :=
      Nat.ne_of_gt (Nat.add_pos_left c.utf8Size_pos _)
    rw [List.cons_append, cutAtByte?, byteLength_cons, if_neg hpos, if_pos (Nat.le_add_right _ _),
      Nat.add_sub_cancel_left, ih]
    rfl

theorem slice?_append (before part after : List Char) :
    slice? (byteLength before) (byteLength (before ++ part)) (before ++ part ++ after) =
      some part := by
  rw [slice?, cutAtByte?_append]
  simp [cutAtByte?_append]

/-- A text is not cut within a pair of a backslash and the character it escapes, where the text
before the cut has its escapes to itself. -/
theorem not_withinEscape (h : ¬ EscapesNext front) (back : List Char) :
    ¬ WithinEscape (front ++ back) (byteLength front) := by
  intro hwithin
  obtain ⟨before, c, after, hjoined, hbefore, hlt, hgt⟩ := hwithin
  rcases List.append_eq_append_iff.1 hjoined with ⟨gap, rfl, -⟩ | ⟨gap, rfl, hpair⟩
  · rw [byteLength_append] at hlt
    omega
  · -- What the text before the cut has more than `before` begins with the backslash.
    cases gap with
    | nil => simp at hlt
    | cons d gap =>
      obtain ⟨rfl, hrest⟩ := List.cons.inj hpair
      cases gap with
      | nil => exact h ((escapesNext_append_iff hbefore).2 (by decide))
      | cons d gap =>
        obtain ⟨rfl, -⟩ := List.cons.inj hrest
        simp only [byteLength_append, byteLength_cons, byteLength_nil] at hgt
        omega

end Bytes

section Scan

variable {mark cs : List Char} {escaped : Bool} {skip offset : Nat}

/-- What lies before the scan does not matter to it. -/
theorem markOffsetsFrom_of_le (h : skip ≤ offset) :
    markOffsetsFrom mark escaped skip offset cs = markOffsetsFrom mark escaped 0 offset cs := by
  induction cs generalizing escaped offset with
  | nil => rfl
  | cons c cs ih =>
    have hnext (e : Bool) : markOffsetsFrom mark e skip (offset + c.utf8Size) cs =
        markOffsetsFrom mark e 0 (offset + c.utf8Size) cs :=
      ih (Nat.le_trans h (Nat.le_add_right _ _))
    simp only [markOffsetsFrom, hnext, if_neg (Nat.not_lt.2 h), Nat.not_lt_zero, if_false]

/-- A mark that was found is passed over. -/
theorem markOffsetsFrom_skip (cs after : List Char) :
    markOffsetsFrom mark escaped (offset + byteLength cs) offset (cs ++ after) =
      markOffsetsFrom mark escaped 0 (offset + byteLength cs) after := by
  induction cs generalizing offset with
  | nil => exact markOffsetsFrom_of_le (Nat.le_refl _)
  | cons c cs ih =>
    have hlt : offset < offset + byteLength (c :: cs) := by
      have hpos := c.utf8Size_pos
      rw [byteLength_cons]
      omega
    rw [List.cons_append, markOffsetsFrom, if_pos hlt, byteLength_cons, ← Nat.add_assoc]
    exact ih

theorem markOffsetsFrom_mark (hne : mark ≠ []) (hmark : '\\' ∉ mark) (after : List Char) :
    markOffsetsFrom mark false 0 offset (mark ++ after) =
      offset :: markOffsetsFrom mark false 0 (offset + byteLength mark) after := by
  obtain ⟨c, rest, rfl⟩ := List.exists_cons_of_ne_nil hne
  have hc : c ≠ '\\' := (List.ne_and_not_mem_of_not_mem_cons hmark).1.symm
  have hstarts : (c :: rest).isPrefixOf (c :: (rest ++ after)) = true :=
    List.isPrefixOf_iff_prefix.2 (List.prefix_append (c :: rest) after)
  rw [List.cons_append, markOffsetsFrom, if_neg (Nat.not_lt_zero _), if_neg Bool.false_ne_true,
    if_neg hc, if_pos hstarts, byteLength_cons, ← Nat.add_assoc, markOffsetsFrom_skip]

/-- The scan takes a whole glyph where no mark begins. -/
theorem markOffsetsFrom_written {g : Glyph} (hg : g.IsComplete)
    (hstarts : mark.isPrefixOf (g.written ++ cs) = false) :
    markOffsetsFrom mark false 0 offset (g.written ++ cs) =
      markOffsetsFrom mark false 0 (offset + byteLength g.written) cs := by
  cases g with
  | bare c =>
    have hc : c ≠ '\\' := hg
    have hfront : mark.isPrefixOf (c :: cs) = false := hstarts
    simp [Glyph.written, markOffsetsFrom, hc, hfront]
  | escaped c => simp [Glyph.written, markOffsetsFrom, Nat.add_assoc]
  | dangling => exact hg.elim

/-- Among the glyphs a mark stands at the front where it does in the text. -/
theorem isPrefixOf_glyphs (hmark : '\\' ∉ mark) :
    (mark.map Glyph.bare).isPrefixOf (glyphs cs) = mark.isPrefixOf cs := by
  rw [Bool.eq_iff_iff, List.isPrefixOf_iff_prefix, List.isPrefixOf_iff_prefix]
  constructor
  · intro h
    obtain ⟨rest, hrest⟩ := h
    refine ⟨writeGlyphs rest, ?_⟩
    rw [← writeGlyphs_glyphs cs, ← hrest, writeGlyphs_append, writeGlyphs_map_bare]
  · intro h
    obtain ⟨rest, rfl⟩ := h
    exact ⟨glyphs rest, (glyphs_append_of_plain hmark rest).symm⟩

theorem cutBare?_written_append (hmark : '\\' ∉ mark) {g : Glyph} (hg : g.IsComplete)
    (hstarts : mark.isPrefixOf (g.written ++ cs) = false) :
    cutBare? mark (g.written ++ cs) =
      (cutBare? mark cs).map fun (before, after) => (g.written ++ before, after) := by
  have hfront : ¬ (mark.map Glyph.bare).isPrefixOf (g :: glyphs cs) = true := by
    rw [← glyphs_written_append hg, isPrefixOf_glyphs hmark, hstarts]
    exact Bool.false_ne_true
  rw [cutBare?, glyphs_written_append hg, cutGlyphs?, if_neg hfront, cutBare?, Option.map_map,
    Option.map_map]
  rfl

theorem cutBare?_mark_append (hne : mark ≠ []) (hmark : '\\' ∉ mark) (after : List Char) :
    cutBare? mark (mark ++ after) = some ([], after) :=
  (cutBare?_eq_some_iff hne hmark).2 ⟨rfl, by decide, fun _ _ _ _ => Nat.zero_le _⟩

theorem isPrefixOf_backslash (hne : mark ≠ []) (hmark : '\\' ∉ mark) (cs : List Char) :
    mark.isPrefixOf ('\\' :: cs) = false := by
  obtain ⟨c, rest, rfl⟩ := List.exists_cons_of_ne_nil hne
  have hc : c ≠ '\\' := (List.ne_and_not_mem_of_not_mem_cons hmark).1.symm
  simp [List.isPrefixOf, hc]

/-- From wherever the text begins, the scan finds the place at which the text is cut, and goes on
behind the mark there. -/
def FindsCut (mark cs : List Char) : Prop :=
  ∀ offset, markOffsetsFrom mark false 0 offset cs =
    match cutBare? mark cs with
    | none => []
    | some (before, after) =>
      (offset + byteLength before) ::
        markOffsetsFrom mark false 0 (offset + byteLength (before ++ mark)) after

/-- A glyph at which no mark begins moves all offsets by what it takes. -/
theorem FindsCut.written_append (hmark : '\\' ∉ mark) {g : Glyph} (hg : g.IsComplete)
    (hstarts : mark.isPrefixOf (g.written ++ cs) = false) (h : FindsCut mark cs) :
    FindsCut mark (g.written ++ cs) := by
  intro offset
  rw [markOffsetsFrom_written hg hstarts, cutBare?_written_append hmark hg hstarts, h]
  cases cutBare? mark cs <;> simp [Nat.add_assoc]

theorem findsCut (hne : mark ≠ []) (hmark : '\\' ∉ mark) (cs : List Char) : FindsCut mark cs := by
  fun_induction glyphs cs with
  | case1 => exact fun _ => rfl
  | case2 =>
    have hfront : (mark.map Glyph.bare).isPrefixOf (glyphs ['\\']) = false := by
      rw [isPrefixOf_glyphs hmark, isPrefixOf_backslash hne hmark]
    have hnone : cutBare? mark ['\\'] = none := by
      simp only [glyphs] at hfront
      simp [cutBare?, glyphs, cutGlyphs?, hfront]
    intro offset
    rw [hnone]
    simp [markOffsetsFrom]
  | case3 c cs ih =>
    exact ih.written_append (g := .escaped c) hmark trivial (isPrefixOf_backslash hne hmark _)
  | case4 c cs hlast hpair ih =>
    have hc : c ≠ '\\' := ne_backslash hlast hpair
    cases hstarts : mark.isPrefixOf (c :: cs) with
    | false => exact ih.written_append (g := .bare c) hmark hc hstarts
    | true =>
      obtain ⟨after, hafter⟩ := List.isPrefixOf_iff_prefix.1 hstarts
      intro offset
      rw [← hafter, cutBare?_mark_append hne hmark, markOffsetsFrom_mark hne hmark]
      rfl

end Scan

section Cuts

variable {c : Char} {mark cs before after : List Char} {parts : List (List Char)}

theorem not_escapesNext_append_mark (hmark : '\\' ∉ mark) (hbefore : ¬ EscapesNext before) :
    ¬ EscapesNext (before ++ mark) :=
  mt (escapesNext_append_iff hbefore).1 (not_escapesNext_of_plain hmark)

/-- The scan finds only marks that are not escaped. -/
theorem exists_of_mem_markOffsetsFrom (hne : mark ≠ []) (hmark : '\\' ∉ mark) {offset p : Nat}
    (h : p ∈ markOffsetsFrom mark false 0 offset cs) :
    ∃ before after, cs = before ++ mark ++ after ∧ ¬ EscapesNext before ∧
      p = offset + byteLength before := by
  induction cs using induction_on_cuts hne hmark generalizing offset with
  | uncut cs hcut =>
    rw [findsCut hne hmark cs, hcut] at h
    contradiction
  | cut before after hfirst ih =>
    rw [findsCut hne hmark, (cutBare?_eq_some_iff hne hmark).2 hfirst] at h
    rcases List.mem_cons.1 h with rfl | h
    · exact ⟨before, after, rfl, hfirst.bare, rfl⟩
    · obtain ⟨left, right, rfl, hleft, rfl⟩ := ih h
      refine ⟨before ++ mark ++ left, right, by simp, ?_, by simp [Nat.add_assoc]⟩
      rwa [escapesNext_append_iff (not_escapesNext_append_mark hmark hfirst.bare)]

theorem cutByOffset?_eq (hne : mark ≠ []) (hmark : '\\' ∉ mark) (cs : List Char) :
    cutByOffset? mark cs = some (cutBare? mark cs) := by
  rw [cutByOffset?, markOffsets, findsCut hne hmark]
  cases hcut : cutBare? mark cs with
  | none => rfl
  | some parts =>
    obtain ⟨before, after⟩ := parts
    obtain rfl := ((cutBare?_eq_some_iff hne hmark).1 hcut).joined
    have hbefore : slice? 0 (byteLength before) (before ++ mark ++ after) = some before := by
      simpa using slice?_append [] before (mark ++ after)
    have hafter : slice? (byteLength (before ++ mark)) (byteLength (before ++ mark ++ after))
        (before ++ mark ++ after) = some after := by
      simpa using slice?_append (before ++ mark) after []
    simp only [Nat.zero_add, hbefore, ← byteLength_append, hafter]
    rfl

theorem slices?_eq (hc : c ≠ '\\') (front cs : List Char) :
    slices? c.utf8Size (front ++ cs) (byteLength front)
      (markOffsetsFrom [c] false 0 (byteLength front) cs) = some (splitBare c cs) := by
  have hne : [c] ≠ [] := List.cons_ne_nil c []
  have hmark : '\\' ∉ [c] := by simpa using hc.symm
  induction cs using induction_on_cuts hne hmark generalizing front with
  | uncut cs hcut =>
    have hslice : slice? (byteLength front) (byteLength (front ++ cs)) (front ++ cs) = some cs := by
      simpa using slice?_append front cs []
    have hbare : ¬ HasBare [c] cs := (cutBare?_eq_none_iff hne hmark).1 hcut
    rw [findsCut hne hmark cs, hcut, splitBare_of_not_hasBare hc hbare, slices?, hslice]
    rfl
  | cut before after hfirst ih =>
    have hslice : slice? (byteLength front) (byteLength (front ++ before))
        (front ++ (before ++ [c] ++ after)) = some before := by
      simpa using slice?_append front before ([c] ++ after)
    -- The rest is split behind all that stands before it.
    have hrest : slices? c.utf8Size (front ++ (before ++ [c] ++ after))
        (byteLength (front ++ before) + c.utf8Size)
        (markOffsetsFrom [c] false 0 (byteLength front + byteLength (before ++ [c])) after) =
          some (splitBare c after) := by
      simpa [Nat.add_assoc] using ih (front ++ before ++ [c])
    rw [findsCut hne hmark, (cutBare?_eq_some_iff hne hmark).2 hfirst,
      splitBare_append hc hfirst.bare (hfirst.not_hasBare hne)]
    simp only [slices?, ← byteLength_append front before, hslice, hrest]
    rfl

theorem splitByOffset?_eq (hc : c ≠ '\\') (cs : List Char) :
    splitByOffset? c cs = some (splitBare c cs) :=
  slices?_eq hc [] cs

/-- Each part but the last has its escapes to itself, so that no escape lies across a mark. -/
theorem unescape?_intercalate (hmark : '\\' ∉ mark)
    (hbare : ∀ part ∈ parts.dropLast, ¬ EscapesNext part) :
    unescape? (mark.intercalate parts) = (parts.mapM unescape?).map mark.intercalate := by
  induction parts with
  | nil => rfl
  | cons part parts ih =>
    cases parts with
    | nil =>
      rw [List.intercalate_singleton, List.mapM_cons]
      cases unescape? part <;> simp
    | cons next parts =>
      obtain ⟨hpart, hrest⟩ := List.forall_mem_cons.1 hbare
      have hparts : (part :: next :: parts).mapM unescape? =
          do return (← unescape? part) :: (← (next :: parts).mapM unescape?) :=
        List.mapM_cons
      rw [List.intercalate_cons_cons, unescape?_append (not_escapesNext_append_mark hmark hpart),
        unescape?_append hpart, unescape?_of_plain hmark, ih hrest, hparts]
      cases unescape? part with
      | none => rfl
      | some us =>
        cases hread : (next :: parts).mapM unescape? with
        | none => rfl
        | some uss =>
          have hne : uss ≠ [] := by
            rintro rfl
            exact absurd (Outcome.mapM_eq_some_iff.1 hread) (List.cons_ne_nil _ _)
          exact congrArg some (List.intercalate_cons_of_ne_nil hne).symm

end Cuts

section Parts

variable {c : Char} {mark cs before after : List Char} {parts : List (List Char)}

/-- A text in parts with marks between them. Nothing of the text is lost, and its escapes may be
removed before it is cut or after: the text has a meaning if all parts have one, which is theirs. -/
structure PartedAt (mark cs : List Char) (parts : List (List Char)) : Prop where
  joined : mark.intercalate parts = cs
  readable : unescape? cs ≠ none ↔ ∀ part ∈ parts, unescape? part ≠ none
  unescaped : unescape? cs = (parts.mapM unescape?).map mark.intercalate

theorem partedAt (hmark : '\\' ∉ mark) (hjoined : mark.intercalate parts = cs)
    (hbare : ∀ part ∈ parts.dropLast, ¬ EscapesNext part) : PartedAt mark cs parts := by
  have hunescaped : unescape? cs = (parts.mapM unescape?).map mark.intercalate := by
    rw [← hjoined, unescape?_intercalate hmark hbare]
  refine ⟨hjoined, ?_, hunescaped⟩
  rw [hunescaped, ne_eq, Option.map_eq_none_iff, Outcome.mapM_eq_none_iff]
  simp

theorem partedAt_cutBare? (hne : mark ≠ []) (hmark : '\\' ∉ mark)
    (h : cutBare? mark cs = some (before, after)) : PartedAt mark cs [before, after] := by
  have hfirst := (cutBare?_eq_some_iff hne hmark).1 h
  apply partedAt hmark
  · rw [hfirst.joined, List.intercalate_cons_cons, List.intercalate_singleton]
  · simpa using hfirst.bare

theorem partedAt_splitBare (hc : c ≠ '\\') (cs : List Char) : PartedAt [c] cs (splitBare c cs) :=
  have hsplit := fullSplit_splitBare hc cs
  partedAt (by simpa using hc.symm) hsplit.joined hsplit.bare

/-- The two ends of a mark that the scan finds lie between characters, and not within an escape. -/
theorem isValid_of_mem_markOffsets (hne : mark ≠ []) (hmark : '\\' ∉ mark) {p n : Nat}
    (hp : p ∈ markOffsets mark cs) (hn : n = p ∨ n = p + byteLength mark) :
    (String.Pos.Raw.mk n).IsValid (String.ofList cs) ∧ ¬ WithinEscape cs n := by
  obtain ⟨before, after, rfl, hbefore, rfl⟩ := exists_of_mem_markOffsetsFrom hne hmark hp
  rcases hn with rfl | rfl
  · rw [Nat.zero_add, List.append_assoc]
    exact ⟨isValid_byteLength before _, not_withinEscape hbefore _⟩
  · rw [Nat.zero_add, ← byteLength_append]
    exact ⟨isValid_byteLength _ after,
      not_withinEscape (not_escapesNext_append_mark hmark hbefore) after⟩

/-- A mark without backslashes cuts a text between its characters and outside of its escapes, by
offsets in bytes as by glyphs, and the parts have the escapes of the text. A text has a meaning
exactly when each of its backslashes, unless it is escaped itself, stands before one of
`* \ : - . ,`. -/
theorem cuts_respect_escapes (hne : mark ≠ []) (hmark : '\\' ∉ mark) (s : String) :
    (∀ p ∈ markOffsets mark s.toList, ∀ n, n = p ∨ n = p + byteLength mark →
      (String.Pos.Raw.mk n).IsValid s ∧ ¬ WithinEscape s.toList n) ∧
    cutByOffset? mark s.toList = some (cutBare? mark s.toList) ∧
    (∀ before after, cutBare? mark s.toList = some (before, after) →
      PartedAt mark s.toList [before, after]) ∧
    (∀ c, mark = [c] → splitByOffset? c s.toList = some (splitBare c s.toList) ∧
      PartedAt mark s.toList (splitBare c s.toList)) ∧
    (unescape? s.toList ≠ none ↔ ¬ HasBadEscape s.toList) := by
  refine ⟨?_, cutByOffset?_eq hne hmark s.toList, ?_, ?_, not_congr unescape?_eq_none_iff⟩
  · intro p hp n hn
    simpa using isValid_of_mem_markOffsets hne hmark hp hn
  · intro before after hcut
    exact partedAt_cutBare? hne hmark hcut
  · rintro c rfl
    have hc : c ≠ '\\' := by
      rintro rfl
      exact hmark (List.mem_singleton_self _)
    exact ⟨splitByOffset?_eq hc s.toList, partedAt_splitBare hc s.toList⟩

/-- A comma behind two backslashes counts, one behind a single backslash does not; offsets go by the
bytes, of which the first character has two. -/
theorem cuts_respect_escapes_comma :
    let s := "\u00e9\\,,\\\\,x"
    let parts := ["\u00e9\\,".toList, "\\\\".toList, "x".toList]
    [','] ≠ [] ∧ '\\' ∉ [','] ∧ markOffsets [','] s.toList = [4, 7] ∧
      ((String.Pos.Raw.mk 7).IsValid s ∧ ¬ WithinEscape s.toList 7) ∧
      ((String.Pos.Raw.mk 8).IsValid s ∧ ¬ WithinEscape s.toList 8) ∧
      splitByOffset? ',' s.toList = some parts ∧ PartedAt [','] s.toList parts ∧
      unescape? s.toList = some "\u00e9,,\\,x".toList ∧ ¬ HasBadEscape s.toList := by
  intro s parts
  have hne : [','] ≠ [] := by decide
  have hmark : '\\' ∉ [','] := by decide
  have hoffsets : markOffsets [','] s.toList = [4, 7] := by decide
  have hparts : splitBare ',' s.toList = parts := by decide
  have hunescaped : unescape? s.toList = some "\u00e9,,\\,x".toList := by decide
  obtain ⟨hcuts, -, -, hsplit, hmeant⟩ := cuts_respect_escapes hne hmark s
  obtain ⟨hslices, hparted⟩ := hsplit ',' rfl
  rw [hparts] at hslices hparted
  have hsecond : 7 ∈ markOffsets [','] s.toList := by simp [hoffsets]
  refine ⟨hne, hmark, hoffsets, hcuts 7 hsecond 7 (.inl rfl), hcuts 7 hsecond 8 (.inr rfl), hslices,
    hparted, hunescaped, hmeant.1 ?_⟩
  rw [hunescaped]
  exact Option.some_ne_none _

example : markOffsets ['.', '.'] "\\...\\\\..a".toList = [2, 6] := by decide

end Parts

end EntitySearch.Text
