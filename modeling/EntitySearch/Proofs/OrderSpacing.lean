import EntitySearch.Proofs.OrderRoundTrip

/-!
Blanks in the text of an order. A text that is read as an order is read as the same order after any
blanks have been put in at its ends, at its commas and before its colons
(`SortOrder.read_of_loosened`), for parts and keys are trimmed. What stands behind a colon is taken
as it is written, so that blanks there are refused (`SortOrder.read_behind_colon`).
-/

namespace EntitySearch

open Outcome Text

theorem Direction.read_of_not_isNamed {word : List Char} (h : ∀ d : Direction, ¬ d.IsNamed word) :
    Direction.read (String.ofList word) = .error (.direction (String.ofList word)) := by
  cases hread : Direction.read (String.ofList word) with
  | ok d => exact absurd (Direction.read_eq_ok_iff.1 hread) (h d)
  | error e =>
    rw [Direction.read] at hread
    split at hread
    · contradiction
    · exact hread.symm

theorem Direction.ne_nil_of_isNamed {d : Direction} {word : List Char} (h : d.IsNamed word) :
    word ≠ [] := by
  rintro rfl
  rcases h with h | h <;> cases d <;> exact absurd h (by decide)

namespace SortOrder

section Parts

/-- What stands between the commas of a text, trimmed, without what is empty then. -/
def parts (cs : List Char) : List (List Char) :=
  ((cs.splitOn ',').map trim).filter (!·.isEmpty)

variable {cs ds : List Char}

theorem read_eq_mapM_parts {K : Type} [DecidableEq K] [Key K] (cs : List Char) :
    read (K := K) (String.ofList cs) = ((parts cs).mapM readPair).map InsertionMap.ofList := by
  rw [read, String.toList_ofList, parts]
  cases ((((cs.splitOn ',').map trim).filter (!·.isEmpty)).mapM (readPair (K := K))) <;> rfl

theorem parts_append_comma (cs ds : List Char) :
    parts (cs ++ ',' :: ds) = parts cs ++ parts ds := by
  simp only [parts, List.splitOn_eq_splitOnP]
  rw [List.splitOnP_append_cons cs ds (by decide), List.map_append, List.filter_append]

theorem parts_of_not_comma (h : ',' ∉ cs) : parts cs = [trim cs].filter (!·.isEmpty) := by
  have hsplit : cs.splitOn ',' = [cs] := by
    apply List.splitOnP_eq_singleton
    intro c hc
    simpa using ne_of_mem_of_not_mem hc h
  rw [parts, hsplit]
  rfl

/-- Up to its last comma a text has parts of its own, whatever comes behind it. -/
theorem exists_parts_behind (cs : List Char) : ∃ front key, ',' ∉ key ∧
    ∀ ds, parts (cs ++ ds) = front ++ parts (key ++ ds) := by
  -- The last comma of the text is the first one of the reversed text.
  by_cases h : ',' ∈ cs.reverse
  · obtain ⟨key, before, hcs, hkey⟩ := List.eq_append_cons_of_mem h
    have hcs : cs = before.reverse ++ ',' :: key.reverse := by
      rw [← List.reverse_inj, hcs]
      simp
    refine ⟨parts before.reverse, key.reverse, by simpa using hkey, fun ds => ?_⟩
    rw [hcs, List.append_assoc, List.cons_append, parts_append_comma]
  · exact ⟨[], cs, by simpa using h, fun ds => rfl⟩

/-- From its first comma on a text has parts of its own, whatever comes before it. -/
theorem exists_parts_before (ds : List Char) : ∃ word back, ',' ∉ word ∧
    ∀ cs, parts (cs ++ ds) = parts (cs ++ word) ++ back := by
  by_cases h : ',' ∈ ds
  · obtain ⟨word, after, rfl, hword⟩ := List.eq_append_cons_of_mem h
    refine ⟨word, parts after, hword, fun cs => ?_⟩
    rw [← List.append_assoc, parts_append_comma]
  · exact ⟨ds, [], h, fun cs => (List.append_nil _).symm⟩

variable {w : List Char} (hw : ∀ c ∈ w, isBlank c = true)

include hw

theorem parts_blank_append (cs : List Char) : parts (w ++ cs) = parts cs := by
  obtain ⟨word, back, hword, hparts⟩ := exists_parts_before cs
  have hcomma : ',' ∉ w ++ word := by
    rw [List.mem_append, not_or]
    exact ⟨not_mem_of_blank (by decide) hw, hword⟩
  have hstart : parts (w ++ word) = parts word := by
    rw [parts_of_not_comma hcomma, parts_of_not_comma hword, trim_blank_append hw]
  calc
    parts (w ++ cs) = parts (w ++ word) ++ back := hparts w
    _ = parts ([] ++ word) ++ back := by rw [hstart, List.nil_append]
    _ = parts ([] ++ cs) := (hparts []).symm

theorem parts_append_blank (cs : List Char) : parts (cs ++ w) = parts cs := by
  obtain ⟨front, key, hkey, hparts⟩ := exists_parts_behind cs
  have hcomma : ',' ∉ key ++ w := by
    rw [List.mem_append, not_or]
    exact ⟨hkey, not_mem_of_blank (by decide) hw⟩
  have hend : parts (key ++ w) = parts key := by
    rw [parts_of_not_comma hcomma, parts_of_not_comma hkey, trim_append_blank hw]
  calc
    parts (cs ++ w) = front ++ parts (key ++ w) := hparts w
    _ = front ++ parts (key ++ []) := by rw [hend, List.append_nil]
    _ = parts (cs ++ []) := (hparts []).symm
    _ = parts cs := by rw [List.append_nil]

end Parts

section Colon

/-- A colon, and all that is put in on both sides of it without a comma, belongs to one part. -/
theorem exists_parts_colon (cs ds : List Char) : ∃ front key word back,
    ∀ w w', ',' ∉ w → ',' ∉ w' → parts (cs ++ (w ++ ':' :: (w' ++ ds))) =
      front ++ trim (key ++ w ++ ':' :: (w' ++ word)) :: back := by
  obtain ⟨front, key, hkey, hfront⟩ := exists_parts_behind cs
  obtain ⟨word, back, hword, hback⟩ := exists_parts_before ds
  refine ⟨front, key, word, back, fun w w' hw hw' => ?_⟩
  have hcomma : ',' ∉ key ++ w ++ ':' :: (w' ++ word) := by simp [hkey, hw, hw', hword]
  have hne : (trim (key ++ w ++ ':' :: (w' ++ word))).isEmpty = false := by
    rw [trim_append_cons (by decide)]
    simp
  calc
    parts (cs ++ (w ++ ':' :: (w' ++ ds)))
      = front ++ parts (key ++ w ++ ':' :: w' ++ ds) := by rw [hfront]; simp
    _ = front ++ (parts (key ++ w ++ ':' :: (w' ++ word)) ++ back) := by rw [hback]; simp
    _ = front ++ trim (key ++ w ++ ':' :: (w' ++ word)) :: back := by
      rw [parts_of_not_comma hcomma, List.filter_cons, hne]
      rfl

variable {K : Type} [Key K] {key word : List Char} {e : K × Direction}

theorem readPair_trim (hkey : ':' ∉ key) (word : List Char) :
    readPair (trim (key ++ ':' :: word)) =
      (Direction.read (String.ofList (trimEnd word))).bind fun d =>
        (Key.read (String.ofList (trim key))).map fun k : K => (k, d) := by
  have hstart : ':' ∉ trimStart key := fun hmem =>
    hkey ((List.dropWhile_sublist isBlank).subset hmem)
  rw [trim_append_cons (by decide), readPair_of_append hstart, trim_trimStart]

/-- What is read as a pair has one colon, with a direction right behind it. -/
theorem isNamed_of_readPair_trim (h : readPair (trim (key ++ ':' :: word)) = .ok e) :
    ':' ∉ key ∧ e.2.IsNamed (trimEnd word) := by
  have hcolon : ':' ∉ key := by
    intro hmem
    obtain ⟨name, rest, rfl, hname⟩ := List.eq_append_cons_of_mem hmem
    -- The first colon is the mark, and the other one would stand in the direction.
    rw [List.append_assoc, List.cons_append, readPair_trim hname] at h
    obtain ⟨d, hd, -⟩ := bind_eq_ok_iff.1 h
    have hcons : trimEnd (':' :: word) = ':' :: trimEnd word := trimEnd_cons (by decide) word
    have hne : trimEnd (':' :: word) ≠ [] := by
      rw [hcons]
      exact List.cons_ne_nil ':' _
    apply not_mark_of_isNamed (.inr rfl) (Direction.read_eq_ok_iff.1 hd)
    rw [trimEnd_append_of_ne_nil hne, hcons]
    simp
  rw [readPair_trim hcolon] at h
  obtain ⟨d, hd, h⟩ := bind_eq_ok_iff.1 h
  obtain ⟨k, -, rfl⟩ := map_eq_ok_iff.1 h
  exact ⟨hcolon, Direction.read_eq_ok_iff.1 hd⟩

variable {w : List Char} (hw : ∀ c ∈ w, isBlank c = true)

include hw

theorem readPair_before_colon (h : readPair (trim (key ++ ':' :: word)) = .ok e) :
    readPair (trim (key ++ w ++ ':' :: word)) = .ok e := by
  obtain ⟨hkey, -⟩ := isNamed_of_readPair_trim h
  have hcolon : ':' ∉ key ++ w := by
    rw [List.mem_append, not_or]
    exact ⟨hkey, not_mem_of_blank (by decide) hw⟩
  rw [readPair_trim hcolon, trim_append_blank hw, ← readPair_trim hkey]
  exact h

theorem readPair_behind_colon (hne : w ≠ [])
    (h : readPair (trim (key ++ ':' :: word)) = .ok e) :
    readPair (K := K) (trim (key ++ ':' :: (w ++ word))) =
      .error (.direction (String.ofList (w ++ trimEnd word))) := by
  obtain ⟨hkey, hnamed⟩ := isNamed_of_readPair_trim h
  have hword : trimEnd word ≠ [] := Direction.ne_nil_of_isNamed hnamed
  -- The blanks stay in front of the direction, and no name of a direction has one.
  have hrefused : ∀ d : Direction, ¬ d.IsNamed (w ++ trimEnd word) := by
    intro d hd
    obtain ⟨c, hc⟩ := List.exists_mem_of_ne_nil w hne
    have hblank := (Query.not_blank_and_not_escape_of_isNamed hd).1
    rw [List.any_append, Bool.or_eq_false_iff, List.any_eq_false] at hblank
    exact hblank.1 c hc (hw c hc)
  rw [readPair_trim hkey, trimEnd_append_of_ne_nil hword, Direction.read_of_not_isNamed hrefused]
  rfl

end Colon

/-- Blanks are put into a text where they do not count: at an end, at a comma or before a colon. -/
inductive Loosens (w : List Char) : List Char → List Char → Prop
  | atStart (cs : List Char) : Loosens w cs (w ++ cs)
  | atEnd (cs : List Char) : Loosens w cs (cs ++ w)
  | beforeComma (cs ds : List Char) : Loosens w (cs ++ ',' :: ds) (cs ++ w ++ ',' :: ds)
  | behindComma (cs ds : List Char) : Loosens w (cs ++ ',' :: ds) (cs ++ ',' :: (w ++ ds))
  | beforeColon (cs ds : List Char) : Loosens w (cs ++ ':' :: ds) (cs ++ (w ++ ':' :: ds))

/-- Blanks are put into a text at any number of such places, one after another. -/
inductive Loosened : List Char → List Char → Prop
  | none (s : List Char) : Loosened s s
  | some {s t u w : List Char} (h : Loosened s t) (hw : ∀ c ∈ w, isBlank c = true)
    (hstep : Loosens w t u) : Loosened s u

section

variable {K : Type} [DecidableEq K] [Key K] {o : SortOrder K} {s t w : List Char}

theorem exists_readPair_of_read (h : read (String.ofList s) = .ok o) :
    ∀ part ∈ parts s, ∃ e : K × Direction, readPair part = .ok e := by
  rw [read_eq_mapM_parts, map_eq_ok_iff] at h
  obtain ⟨l, hl, -⟩ := h
  exact exists_mapM_eq_ok_iff.1 ⟨l, hl⟩

/-- Putting in blanks at one place does not change what is read: all parts stay as they are, but for
the one whose colon they come before. -/
theorem read_of_loosens (hw : ∀ c ∈ w, isBlank c = true) (hst : Loosens w s t)
    (h : read (String.ofList s) = .ok o) : read (String.ofList t) = .ok o := by
  have hsame (hparts : parts t = parts s) : read (String.ofList t) = .ok o := by
    rw [read_eq_mapM_parts, hparts, ← read_eq_mapM_parts, h]
  cases hst with
  | atStart => exact hsame (parts_blank_append hw s)
  | atEnd => exact hsame (parts_append_blank hw s)
  | beforeComma cs ds =>
    apply hsame
    rw [parts_append_comma, parts_append_comma, parts_append_blank hw]
  | behindComma cs ds =>
    apply hsame
    rw [parts_append_comma, parts_append_comma, parts_blank_append hw]
  | beforeColon cs ds =>
    obtain ⟨front, key, word, back, hparts⟩ := exists_parts_colon cs ds
    have hs : parts (cs ++ ':' :: ds) = front ++ trim (key ++ ':' :: word) :: back := by
      simpa using hparts [] [] (by simp) (by simp)
    have ht : parts (cs ++ (w ++ ':' :: ds)) = front ++ trim (key ++ w ++ ':' :: word) :: back :=
      hparts w [] (not_mem_of_blank (by decide) hw) (by simp)
    -- The text was read, so this part was, and the blanks before its colon are trimmed.
    obtain ⟨e, he⟩ := exists_readPair_of_read h (trim (key ++ ':' :: word)) (by simp [hs])
    rw [read_eq_mapM_parts, hs, List.mapM_append, List.mapM_cons, he] at h
    rw [read_eq_mapM_parts, ht, List.mapM_append, List.mapM_cons, readPair_before_colon hw he]
    exact h

theorem read_of_loosened (hst : Loosened s t) (h : read (String.ofList s) = .ok o) :
    read (String.ofList t) = .ok o := by
  induction hst with
  | none => exact h
  | some _ hw hstep ih => exact read_of_loosens hw hstep ih

/-- Blanks behind a colon are taken for a part of the direction there, and refused with it. -/
theorem read_behind_colon {cs ds : List Char} (hw : ∀ c ∈ w, isBlank c = true) (hne : w ≠ [])
    (h : read (String.ofList (cs ++ ':' :: ds)) = .ok o) :
    ∃ (d : Direction) (word : List Char), d.IsNamed word ∧
      read (K := K) (String.ofList (cs ++ ':' :: (w ++ ds))) =
        .error (.direction (String.ofList (w ++ word))) := by
  obtain ⟨front, key, word, back, hparts⟩ := exists_parts_colon cs ds
  have hs : parts (cs ++ ':' :: ds) = front ++ trim (key ++ ':' :: word) :: back := by
    simpa using hparts [] [] (by simp) (by simp)
  have ht : parts (cs ++ ':' :: (w ++ ds)) = front ++ trim (key ++ ':' :: (w ++ word)) :: back := by
    simpa using hparts [] w (by simp) (not_mem_of_blank (by decide) hw)
  have hread := exists_readPair_of_read h
  rw [hs] at hread
  obtain ⟨e, he⟩ := hread (trim (key ++ ':' :: word)) (by simp)
  refine ⟨e.2, trimEnd word, (isNamed_of_readPair_trim he).2, ?_⟩
  rw [read_eq_mapM_parts, map_eq_error_iff, ht, mapM_eq_error_iff]
  -- All parts before this one are read as they were.
  refine ⟨front, _, back, rfl, fun part hpart => ?_, readPair_behind_colon hw hne he⟩
  exact hread part (List.mem_append_left _ hpart)

/-- Of a text that is read as an order, blanks leave the order alone wherever they are put in, at an
end or at a mark, unless it is behind a colon: there any blanks at all make it a text that is
refused. -/
theorem blanks_count_only_behind_colon (h : read (String.ofList s) = .ok o) :
    (∀ t, Loosened s t → read (String.ofList t) = .ok o) ∧
    ∀ cs ds, s = cs ++ ':' :: ds → ∀ w, (∀ c ∈ w, isBlank c = true) → w ≠ [] →
      ∃ (d : Direction) (word : List Char), d.IsNamed word ∧
        read (K := K) (String.ofList (cs ++ ':' :: (w ++ ds))) =
          .error (.direction (String.ofList (w ++ word))) := by
  refine ⟨fun t ht => read_of_loosened ht h, ?_⟩
  rintro cs ds rfl w hw hne
  exact read_behind_colon hw hne h

end

/-- Blanks at both ends, before the colon and on both sides of the comma, but none behind the
colon. -/
theorem blanks_count_only_behind_colon_tags :
    let s := "name:desc,usages".toList
    let t := " name\t:desc , usages\n".toList
    let o : SortOrder TagSort := .ofList [(.name, .descending), (.usages, .ascending)]
    read (String.ofList s) = .ok o ∧ Loosened s t ∧ read (String.ofList t) = .ok o ∧
      ∃ (d : Direction) (word : List Char), d.IsNamed word ∧
        read (K := TagSort) (String.ofList ("name".toList ++ ':' :: ' ' :: "desc,usages".toList)) =
          .error (.direction (String.ofList (' ' :: word))) := by
  intro s t o
  have hread : read (String.ofList s) = .ok o := by decide
  have hblank {c : Char} (hc : isBlank c = true) : ∀ d ∈ [c], isBlank d = true :=
    List.forall_mem_singleton.2 hc
  have hspace := hblank (c := ' ') rfl
  have hstart : Loosened s " name:desc,usages".toList :=
    .some (.none s) hspace (.atStart s)
  have hcolon : Loosened s " name\t:desc,usages".toList :=
    .some hstart (hblank (c := '\t') rfl) (.beforeColon " name".toList "desc,usages".toList)
  have hcomma : Loosened s " name\t:desc ,usages".toList :=
    .some hcolon hspace (.beforeComma " name\t:desc".toList "usages".toList)
  have hcomma' : Loosened s " name\t:desc , usages".toList :=
    .some hcomma hspace (.behindComma " name\t:desc ".toList "usages".toList)
  have ht : Loosened s t :=
    .some hcomma' (hblank (c := '\n') rfl) (.atEnd " name\t:desc , usages".toList)
  obtain ⟨hloose, hbehind⟩ := blanks_count_only_behind_colon hread
  exact ⟨hread, ht, hloose t ht,
    hbehind "name".toList "desc,usages".toList rfl [' '] hspace (List.cons_ne_nil _ _)⟩

/-- One blank behind the colon, and an order that was read is refused. -/
theorem read_blank_behind_colon :
    read (K := UserSort) "name:desc" = .ok (.ofList [(.name, .descending)]) ∧
      read (K := UserSort) "name: desc" = .error (.direction " desc") := by
  decide

end SortOrder

end EntitySearch
