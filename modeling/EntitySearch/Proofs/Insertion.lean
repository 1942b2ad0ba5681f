import EntitySearch.InsertionMap
import Mathlib.Data.List.Basic
import Mathlib.Data.List.Induction

/-!
Inserting many pairs. A map is told by its keys in their sequence and by what it holds under each
(`ext_of_get?`). Inserting the pairs of a list therefore leads to the same map as inserting those
that are left when the list has been merged into a map by itself (`insertAll_entries_ofList`).
-/

namespace EntitySearch

/-- What is found last in a list is followed by nothing of the kind. -/
theorem find?_reverse_eq_some_iff {α : Type} {p : α → Bool} {l : List α} {a : α} :
    l.reverse.find? p = some a ↔
      p a = true ∧ ∃ before after, l = before ++ a :: after ∧ ∀ b ∈ after, p b = false := by
  rw [List.find?_eq_some_iff_append]
  refine and_congr_right fun _ => ?_
  -- What stands before it in the reversed list stands after it in the list.
  constructor
  · intro h
    obtain ⟨after, before, hl, hafter⟩ := h
    refine ⟨before.reverse, after.reverse, ?_, by simpa using hafter⟩
    rw [← List.reverse_reverse l, hl]
    simp
  · intro h
    obtain ⟨before, after, hl, hafter⟩ := h
    refine ⟨after.reverse, before.reverse, ?_, by simpa using hafter⟩
    rw [hl]
    simp

namespace InsertionMap

variable {κ β : Type} [DecidableEq κ]

/-- Inserts the pairs of a list one after another. -/
def insertAll (m : InsertionMap κ β) (l : List (κ × β)) : InsertionMap κ β :=
  l.foldl (fun m e => m.insert e.1 e.2) m

theorem entries_eq_filterMap (m : InsertionMap κ β) :
    m.entries = m.keys.filterMap fun k => (m.get? k).map fun b => (k, b) := by
  have hpair (e : κ × β) (he : e ∈ m.entries) :
      ((m.get? e.1).map fun b => (e.1, b)) = some e := by
    rw [(m.get?_eq_some_iff e.1 e.2).2 he]
    rfl
  rw [keys, List.filterMap_map]
  calc
    m.entries = m.entries.filterMap some := List.filterMap_some.symm
    _ = _ := List.filterMap_congr fun e he => (hpair e he).symm

theorem values_eq_filterMap (m : InsertionMap κ β) : m.values = m.keys.filterMap m.get? := by
  rw [values, entries_eq_filterMap, List.map_filterMap]
  apply List.filterMap_congr
  intro k _
  cases m.get? k <;> rfl

theorem mem_keys_of_get? {m : InsertionMap κ β} {k : κ} {b : β} (h : m.get? k = some b) :
    k ∈ m.keys := List.mem_map.2 ⟨(k, b), (m.get?_eq_some_iff k b).1 h, rfl⟩

theorem ext_of_get? {m n : InsertionMap κ β} (hkeys : m.keys = n.keys)
    (hget : ∀ k, m.get? k = n.get? k) : m = n := by
  have hentries : m.entries = n.entries := by
    rw [entries_eq_filterMap m, entries_eq_filterMap n, hkeys]
    exact List.filterMap_congr fun k _ => by rw [hget]
  cases m
  cases n
  cases hentries
  rfl

section

variable (m : InsertionMap κ β) {j k : κ} (b c : β)

theorem mem_keys_insert : j ∈ (m.insert k b).keys ↔ j = k ∨ j ∈ m.keys := by
  rw [keys_insert]
  split
  · next hk =>
    constructor
    · exact .inr
    · intro h
      rcases h with rfl | h
      · exact hk
      · exact h
  · rw [List.mem_append, List.mem_singleton, or_comm]

theorem insert_insert_same : (m.insert k b).insert k c = m.insert k c := by
  have hk : k ∈ (m.insert k b).keys := (mem_keys_insert m b).2 (.inl rfl)
  apply ext_of_get?
  · rw [keys_insert, if_pos hk, keys_insert, keys_insert]
  · intro i
    simp only [get?_insert]
    split <;> rfl

/-- A key that stands already takes a new value without regard to what comes after it. -/
theorem insert_insert_comm (hne : j ≠ k) (hk : k ∈ m.keys) :
    (m.insert j b).insert k c = (m.insert k c).insert j b := by
  have hkeys (b : β) : (m.insert k b).keys = m.keys := by
    rw [keys_insert, if_pos hk]
  have hk' : k ∈ (m.insert j b).keys := (mem_keys_insert m b).2 (.inr hk)
  apply ext_of_get?
  · rw [keys_insert, if_pos hk', keys_insert, keys_insert, hkeys]
  · intro i
    simp only [get?_insert]
    by_cases hj : j = i
    · have hi : k ≠ i := fun h => hne (hj.trans h.symm)
      simp [hj, hi]
    · simp [hj]

theorem insertAll_insert {l : List (κ × β)} (hk : k ∈ m.keys) (hl : k ∉ l.map Prod.fst) :
    (m.insertAll l).insert k b = (m.insert k b).insertAll l := by
  induction l generalizing m with
  | nil => rfl
  | cons e l ih =>
    obtain ⟨hne, hl⟩ := List.ne_and_not_mem_of_not_mem_cons hl
    have hk' : k ∈ (m.insert e.1 e.2).keys := (mem_keys_insert m e.2).2 (.inr hk)
    change ((m.insert e.1 e.2).insertAll l).insert k b = ((m.insert k b).insert e.1 e.2).insertAll l
    rw [ih _ hk' hl, insert_insert_comm m e.2 b (Ne.symm hne) hk]

theorem insertAll_insertEntry {l : List (κ × β)} (hl : (l.map Prod.fst).Nodup) :
    m.insertAll (insertEntry k b l) = (m.insertAll l).insert k b := by
  induction l generalizing m with
  | nil => rfl
  | cons e l ih =>
    obtain ⟨k', b'⟩ := e
    obtain ⟨hk', hl⟩ := List.nodup_cons.1 hl
    by_cases h : k' = k
    · -- The old value was inserted where the new one stands, and is overwritten at the end.
      subst h
      have hmem : k' ∈ (m.insert k' b').keys := (mem_keys_insert m b').2 (.inl rfl)
      have hentry : insertEntry k' b ((k', b') :: l) = (k', b) :: l := by
        rw [insertEntry, if_pos rfl]
      calc
        m.insertAll (insertEntry k' b ((k', b') :: l)) = (m.insert k' b).insertAll l := by
          rw [hentry]
          rfl
        _ = ((m.insert k' b').insert k' b).insertAll l := by rw [insert_insert_same]
        _ = ((m.insert k' b').insertAll l).insert k' b :=
          (insertAll_insert _ b hmem hk').symm
    · have hentry : insertEntry k b ((k', b') :: l) = (k', b') :: insertEntry k b l := by
        rw [insertEntry, if_neg h]
      rw [hentry]
      exact ih (m.insert k' b') hl

end

theorem insertAll_append (m : InsertionMap κ β) (l l' : List (κ × β)) :
    m.insertAll (l ++ l') = (m.insertAll l).insertAll l' := List.foldl_append

theorem insertAll_concat (m : InsertionMap κ β) (l : List (κ × β)) (e : κ × β) :
    m.insertAll (l ++ [e]) = (m.insertAll l).insert e.1 e.2 := insertAll_append m l [e]

theorem ofList_concat (l : List (κ × β)) (e : κ × β) :
    ofList (l ++ [e]) = (ofList l).insert e.1 e.2 := insertAll_concat empty l e

theorem insertAll_entries_ofList (m : InsertionMap κ β) (l : List (κ × β)) :
    m.insertAll (ofList l).entries = m.insertAll l := by
  induction l using List.reverseRecOn with
  | nil => rfl
  | append_singleton l e ih =>
    rw [ofList_concat, insertAll_concat, ← ih]
    exact insertAll_insertEntry m e.2 (ofList l).nodup_keys

/-- Pairs appended to others may as well be merged first, and what is left of them inserted. -/
theorem ofList_append (l l' : List (κ × β)) :
    ofList (l ++ l') = (ofList l).insertAll (ofList l').entries := by
  rw [insertAll_entries_ofList]
  exact insertAll_append empty l l'

theorem insertEntry_append {k : κ} {l : List (κ × β)} (hk : k ∉ l.map Prod.fst) (b : β)
    (l' : List (κ × β)) : insertEntry k b (l ++ l') = l ++ insertEntry k b l' := by
  induction l with
  | nil => rfl
  | cons e l ih =>
    obtain ⟨hne, hk⟩ := List.ne_and_not_mem_of_not_mem_cons hk
    rw [List.cons_append, insertEntry, if_neg (Ne.symm hne), ih hk, List.cons_append]

/-- Pairs with other keys are put behind those that stand, as they would stand alone. -/
theorem entries_insertAll (m : InsertionMap κ β) {l : List (κ × β)} (h : ∀ e ∈ l, e.1 ∉ m.keys) :
    (m.insertAll l).entries = m.entries ++ (ofList l).entries := by
  induction l using List.reverseRecOn with
  | nil => exact (List.append_nil _).symm
  | append_singleton l e ih =>
    obtain ⟨hl, he⟩ := List.forall_mem_append.1 h
    calc
      (m.insertAll (l ++ [e])).entries = insertEntry e.1 e.2 (m.insertAll l).entries := by
        rw [insertAll_concat]
        rfl
      _ = insertEntry e.1 e.2 (m.entries ++ (ofList l).entries) := by rw [ih hl]
      _ = m.entries ++ insertEntry e.1 e.2 (ofList l).entries :=
        insertEntry_append (he e (by simp)) e.2 _
      _ = m.entries ++ (ofList (l ++ [e])).entries := by
        rw [ofList_concat]
        rfl

end InsertionMap

end EntitySearch
