import EntitySearch.Text.Blank
import Mathlib.Data.List.DropRight
import Mathlib.Data.List.TakeWhile

/-!
Trimming. What is left of a text is a part of it (`mem_of_mem_trim`) with no blank at either end, and
trimming changes just the texts that have one there (`trim_eq_self_iff`). Blanks that are added at an
end change nothing that is left (`trim_blank_append`, `trim_append_blank`).
-/

namespace EntitySearch.Text

variable {cs ds : List Char}

theorem trimEnd_eq_rdropWhile (cs : List Char) : trimEnd cs = cs.rdropWhile isBlank := rfl

theorem trimStart_eq_self_iff : trimStart cs = cs ↔ ∀ c ∈ cs.head?, isBlank c = false := by
  rw [trimStart, List.dropWhile_eq_self_iff]
  cases cs <;> simp

theorem trimEnd_eq_self_iff : trimEnd cs = cs ↔ ∀ c ∈ cs.getLast?, isBlank c = false := by
  rw [trimEnd_eq_rdropWhile, List.rdropWhile_eq_self_iff]
  constructor
  · intro h c hc
    obtain ⟨hne, rfl⟩ := List.mem_getLast?_eq_getLast hc
    simpa using h hne
  · intro h hne
    simpa using h _ (List.getLast?_eq_some_getLast hne)

theorem trim_prefix_trimStart (cs : List Char) : trim cs <+: trimStart cs :=
  List.rdropWhile_prefix isBlank (trimStart cs)

theorem trim_sublist (cs : List Char) : (trim cs).Sublist cs :=
  (trim_prefix_trimStart cs).sublist.trans (List.dropWhile_sublist isBlank)

theorem mem_of_mem_trim {c : Char} (h : c ∈ trim cs) : c ∈ cs := (trim_sublist cs).subset h

theorem trim_eq_self_iff : trim cs = cs ↔ (∀ c ∈ cs.head?, isBlank c = false) ∧
    ∀ c ∈ cs.getLast?, isBlank c = false := by
  rw [← trimStart_eq_self_iff, ← trimEnd_eq_self_iff]
  constructor
  · intro h
    -- Nothing is lost in either step if nothing is lost in both.
    have hstart : trimStart cs = cs := by
      apply (List.dropWhile_sublist isBlank).antisymm
      calc
        cs.Sublist (trim cs) := by rw [h]
        (trim cs).Sublist (trimStart cs) := (trim_prefix_trimStart cs).sublist
    rw [trim, hstart] at h
    exact ⟨hstart, h⟩
  · intro h
    obtain ⟨hstart, hend⟩ := h
    rw [trim, hstart, hend]

theorem trim_trim (cs : List Char) : trim (trim cs) = trim cs := by
  have hend : trimEnd (trim cs) = trim cs := List.rdropWhile_idempotent isBlank _
  have hstart : trimStart (trim cs) = trim cs := by
    rw [trimStart_eq_self_iff]
    intro c hc
    -- The first character that is left is the one that ended the trimming in front.
    obtain ⟨rest, hrest⟩ := trim_prefix_trimStart cs
    have hfirst : (trimStart cs).head? = some c := by
      rw [← hrest, List.head?_append_of_ne_nil _ (List.ne_nil_of_mem (List.mem_of_head? hc)), hc]
    have hidem : trimStart (trimStart cs) = trimStart cs := List.dropWhile_idempotent isBlank cs
    exact trimStart_eq_self_iff.1 hidem c hfirst
  rw [trim, hstart, hend]

/-- A text that has no blank at its ends keeps none with more behind it that has no blank at all. -/
theorem trim_append_of_not_blank (hcs : trim cs = cs) (hne : ds ≠ [])
    (hds : ds.any isBlank = false) : trim (cs ++ ds) = cs ++ ds := by
  have hblank (d : Char) (hd : d ∈ ds) : isBlank d = false := by
    simpa using List.any_eq_false.1 hds d hd
  rw [trim_eq_self_iff] at hcs ⊢
  constructor
  · intro c hc
    cases cs with
    | nil => exact hblank c (List.mem_of_head? hc)
    | cons first rest => exact hcs.1 c hc
  · intro c hc
    rw [List.getLast?_append_of_ne_nil cs hne] at hc
    exact hblank c (List.mem_of_getLast? hc)

section Ends

theorem not_mem_of_blank {c : Char} (hc : isBlank c = false) (h : ∀ d ∈ cs, isBlank d = true) :
    c ∉ cs := by
  intro hmem
  rw [h c hmem] at hc
  contradiction

theorem trimStart_blank_append (h : ∀ d ∈ ds, isBlank d = true) (cs : List Char) :
    trimStart (ds ++ cs) = trimStart cs :=
  List.dropWhile_append_of_pos h

theorem trimEnd_append_blank (h : ∀ d ∈ ds, isBlank d = true) (cs : List Char) :
    trimEnd (cs ++ ds) = trimEnd cs := by
  have hreverse : ∀ d ∈ ds.reverse, isBlank d = true := by simpa using h
  rw [trimEnd, List.reverse_append, List.dropWhile_append_of_pos hreverse, trimEnd]

theorem trimEnd_append_of_ne_nil (h : trimEnd ds ≠ []) (cs : List Char) :
    trimEnd (cs ++ ds) = cs ++ trimEnd ds := by
  have hleft : (ds.reverse.dropWhile isBlank).isEmpty = false := by
    simpa [trimEnd] using h
  rw [trimEnd, List.reverse_append, List.dropWhile_append, hleft]
  simp [trimEnd]

theorem trim_trimStart (cs : List Char) : trim (trimStart cs) = trim cs := by
  rw [trim, trimStart, trimStart, List.dropWhile_idempotent isBlank cs]
  rfl

theorem trim_blank_append (h : ∀ d ∈ ds, isBlank d = true) (cs : List Char) :
    trim (ds ++ cs) = trim cs := by
  rw [trim, trimStart_blank_append h, trim]

theorem trim_append_blank (h : ∀ d ∈ ds, isBlank d = true) (cs : List Char) :
    trim (cs ++ ds) = trim cs := by
  have hds : trimStart ds = [] := List.dropWhile_eq_nil_iff.2 h
  -- The blanks are met from the front only if there is nothing else in the text.
  rw [trim, trimStart, List.dropWhile_append]
  split
  · next hcs =>
    have hcs : trimStart cs = [] := List.isEmpty_iff.1 hcs
    rw [trim, hcs]
    exact congrArg trimEnd hds
  · exact trimEnd_append_blank h (trimStart cs)

variable {c : Char}

theorem trimStart_append_cons (hc : isBlank c = false) (cs ds : List Char) :
    trimStart (cs ++ c :: ds) = trimStart cs ++ c :: ds := by
  rw [trimStart, List.dropWhile_append]
  split
  · next hcs =>
    have hcs : trimStart cs = [] := List.isEmpty_iff.1 hcs
    rw [hcs, List.dropWhile_cons, hc]
    rfl
  · rfl

theorem trimEnd_cons (hc : isBlank c = false) (ds : List Char) :
    trimEnd (c :: ds) = c :: trimEnd ds := by
  rw [trimEnd, List.reverse_cons, List.dropWhile_append]
  split
  · next hds =>
    have hds : trimEnd ds = [] := by
      simpa [trimEnd] using hds
    rw [hds, List.dropWhile_cons, hc]
    rfl
  · simp [trimEnd]

/-- A character that is no blank keeps what is on the one side of it from the trimming of the
other. -/
theorem trim_append_cons (hc : isBlank c = false) (cs ds : List Char) :
    trim (cs ++ c :: ds) = trimStart cs ++ c :: trimEnd ds := by
  have hne : trimEnd (c :: ds) ≠ [] := by
    rw [trimEnd_cons hc]
    exact List.cons_ne_nil c _
  rw [trim, trimStart_append_cons hc, trimEnd_append_of_ne_nil hne, trimEnd_cons hc]

end Ends

end EntitySearch.Text
