import EntitySearch.Proofs.Insertion

/-!
What a sequence of pairs leads to. Each key stands once, at the rank of its first pair and with the
value of its last one (`merges_ofList`), so that the pairs of a map lead to that map again
(`ofList_entries`).
-/

namespace EntitySearch.InsertionMap

variable {κ β : Type} [DecidableEq κ]

theorem get?_ofList (l : List (κ × β)) (k : κ) :
    (ofList l).get? k = (l.reverse.find? fun e => e.1 = k).map Prod.snd := by
  induction l using List.reverseRecOn with
  | nil => rfl
  | append_singleton l e ih =>
    rw [ofList_concat, get?_insert, ih, List.reverse_concat, List.find?_cons]
    by_cases h : e.1 = k <;> simp [h]

/-- The pairs that are inserted count before those that stood already. -/
theorem get?_insertAll (m : InsertionMap κ β) (l : List (κ × β)) (k : κ) :
    (m.insertAll l).get? k = ((ofList l).get? k).or (m.get? k) := by
  induction l using List.reverseRecOn with
  | nil => rfl
  | append_singleton l e ih =>
    rw [insertAll_concat, ofList_concat, get?_insert, get?_insert, ih]
    split <;> rfl

/-- The pair is the last one of its key. -/
def IsLast (l : List (κ × β)) (k : κ) (b : β) : Prop :=
  ∃ before after, l = before ++ (k, b) :: after ∧ ∀ e ∈ after, e.1 ≠ k

/-- The map `m` has each key of the pairs once, at the rank of its first pair and with the value of
its last one. -/
structure Merges (l : List (κ × β)) (m : InsertionMap κ β) : Prop where
  nodup : m.keys.Nodup
  mem_keys_iff : ∀ k, k ∈ m.keys ↔ k ∈ l.map Prod.fst
  rank_iff : ∀ j ∈ m.keys, ∀ k ∈ m.keys,
    m.keys.idxOf j < m.keys.idxOf k ↔ (l.map Prod.fst).idxOf j < (l.map Prod.fst).idxOf k
  get?_eq_some_iff : ∀ k b, m.get? k = some b ↔ IsLast l k b

theorem get?_ofList_eq_some_iff {l : List (κ × β)} {k : κ} {b : β} :
    (ofList l).get? k = some b ↔ IsLast l k b := by
  simp only [get?_ofList, Option.map_eq_some_iff, find?_reverse_eq_some_iff, decide_eq_true_eq,
    decide_eq_false_iff_not]
  constructor
  · intro h
    obtain ⟨⟨j, c⟩, ⟨rfl, hlast⟩, rfl⟩ := h
    exact hlast
  · intro h
    exact ⟨(k, b), ⟨rfl, h⟩, rfl⟩

theorem keys_ofList_concat (l : List (κ × β)) (e : κ × β) :
    (ofList (l ++ [e])).keys =
      if e.1 ∈ (ofList l).keys then (ofList l).keys else (ofList l).keys ++ [e.1] := by
  rw [ofList_concat, keys_insert]

theorem mem_keys_ofList (l : List (κ × β)) (k : κ) :
    k ∈ (ofList l).keys ↔ k ∈ l.map Prod.fst := by
  induction l using List.reverseRecOn with
  | nil => exact Iff.rfl
  | append_singleton l e ih =>
    rw [ofList_concat, mem_keys_insert, ih, List.map_append, List.mem_append, or_comm]
    simp

theorem idxOf_concat_lt_iff {l : List κ} {e j k : κ} (hk : k ∈ l ++ [e]) :
    (l ++ [e]).idxOf j < (l ++ [e]).idxOf k ↔ j ∈ l ∧ (k ∈ l → l.idxOf j < l.idxOf k) := by
  have hbound : (l ++ [e]).idxOf k < l.length + 1 := by
    simpa using List.idxOf_lt_length_of_mem hk
  by_cases hj : j ∈ l
  · have hlt : l.idxOf j < l.length := List.idxOf_lt_length_of_mem hj
    rw [List.idxOf_append_of_mem hj]
    by_cases hk' : k ∈ l
    · simp [hj, hk', List.idxOf_append_of_mem hk']
    · rw [List.idxOf_append_of_notMem hk']
      simp only [hj, hk', true_and, false_implies, iff_true]
      omega
  · -- What is not in the list is past all of it.
    rw [List.idxOf_append_of_notMem hj]
    simp only [hj, false_and, iff_false]
    omega

/-- A key that comes again does not move, and a new one goes behind all others. -/
theorem rank_ofList (l : List (κ × β)) {j k : κ} (hj : j ∈ (ofList l).keys)
    (hk : k ∈ (ofList l).keys) :
    (ofList l).keys.idxOf j < (ofList l).keys.idxOf k ↔
      (l.map Prod.fst).idxOf j < (l.map Prod.fst).idxOf k := by
  induction l using List.reverseRecOn with
  | nil => contradiction
  | append_singleton l e ih =>
    have hmem (i : κ) : i ∈ (ofList l).keys ↔ i ∈ l.map Prod.fst := mem_keys_ofList l i
    have hk' : k ∈ l.map Prod.fst ++ [e.1] := by
      simpa using (mem_keys_ofList (l ++ [e]) k).1 hk
    rw [List.map_append, List.map_singleton, idxOf_concat_lt_iff hk', ← hmem, ← hmem]
    by_cases he : e.1 ∈ (ofList l).keys
    · rw [keys_ofList_concat, if_pos he] at hj hk ⊢
      simp only [hj, hk, true_and, true_implies]
      exact ih hj hk
    · rw [keys_ofList_concat, if_neg he] at hk ⊢
      rw [idxOf_concat_lt_iff hk]
      apply and_congr_right
      intro hj
      apply forall_congr'
      intro hk
      exact ih hj hk

theorem merges_ofList (l : List (κ × β)) : Merges l (ofList l) where
  nodup := (ofList l).nodup_keys
  mem_keys_iff := mem_keys_ofList l
  rank_iff _ hj _ hk := rank_ofList l hj hk
  get?_eq_some_iff _ _ := get?_ofList_eq_some_iff

theorem Merges.pairwise_rank {l : List (κ × β)} {m : InsertionMap κ β} (h : Merges l m) :
    m.keys.Pairwise fun j k => (l.map Prod.fst).idxOf j < (l.map Prod.fst).idxOf k := by
  rw [List.pairwise_iff_getElem]
  intro i j hi hj hij
  rw [← h.rank_iff _ (List.getElem_mem hi) _ (List.getElem_mem hj), h.nodup.idxOf_getElem,
    h.nodup.idxOf_getElem]
  exact hij

/-- Keys, ranks and values leave no choice. -/
theorem Merges.eq_ofList {l : List (κ × β)} {m : InsertionMap κ β} (h : Merges l m) :
    m = ofList l := by
  have hl : Merges l (ofList l) := merges_ofList l
  have hperm : m.keys.Perm (ofList l).keys := by
    rw [List.perm_ext_iff_of_nodup h.nodup hl.nodup]
    intro k
    rw [h.mem_keys_iff, hl.mem_keys_iff]
  apply ext_of_get?
  · apply hperm.eq_of_pairwise _ h.pairwise_rank hl.pairwise_rank
    intro j k _ _ hjk hkj
    omega
  · intro k
    apply Option.ext
    intro b
    rw [h.get?_eq_some_iff, hl.get?_eq_some_iff]

/-- The pairs of a map come with different keys, and each is put behind those before it. -/
theorem ofList_entries (m : InsertionMap κ β) : ofList m.entries = m := by
  have hentries {l : List (κ × β)} (hl : (l.map Prod.fst).Nodup) : (ofList l).entries = l := by
    induction l using List.reverseRecOn with
    | nil => rfl
    | append_singleton l e ih =>
      rw [List.map_append, List.nodup_append] at hl
      obtain ⟨hl, -, hdisjoint⟩ := hl
      have he : e.1 ∉ l.map Prod.fst := fun hmem => hdisjoint e.1 hmem e.1 (by simp) rfl
      calc
        (ofList (l ++ [e])).entries = insertEntry e.1 e.2 (ofList l).entries := by
          rw [ofList_concat]
          rfl
        _ = insertEntry e.1 e.2 (l ++ []) := by rw [ih hl, List.append_nil]
        _ = l ++ [e] := insertEntry_append he e.2 []
  have heq := hentries m.nodup_keys
  cases hm : ofList m.entries
  cases m
  simp_all

/-- A map that is put over another one takes precedence. -/
theorem get?_insertAll_entries (m n : InsertionMap κ β) (k : κ) :
    (m.insertAll n.entries).get? k = (n.get? k).or (m.get? k) := by
  rw [get?_insertAll, ofList_entries]

end EntitySearch.InsertionMap
