import EntitySearch.Collection
import EntitySearch.Proofs.Insertion
import Mathlib.Data.List.Nodup
import Mathlib.Data.List.Infix

/-!
Histories of saves. What a collection holds after a history is told from the history alone: each
identifier once, in the sequence of the first saves, with the entity that was saved last under it
(`values_ofHistory`).
-/

namespace EntitySearch

variable {α O C : Type}

namespace Schema

def firstSaves (S : Schema α O C) (saved : List α) : List Uuid := (saved.map S.id).eraseDups

def lastSave? (S : Schema α O C) (saved : List α) (i : Uuid) : Option α :=
  saved.reverse.find? fun a => S.id a = i

/-- The entity has been saved under the identifier, and nothing has been since then. -/
def IsLastSave (S : Schema α O C) (saved : List α) (i : Uuid) (a : α) : Prop :=
  S.id a = i ∧ ∃ before after, saved = before ++ a :: after ∧ ∀ b ∈ after, S.id b ≠ i

/-- What a history leaves: for each identifier, in the sequence of the first saves, the entity
that was saved last. -/
def remaining (S : Schema α O C) (saved : List α) : List α :=
  (S.firstSaves saved).filterMap (S.lastSave? saved)

theorem firstSaves_concat (S : Schema α O C) (saved : List α) (a : α) :
    S.firstSaves (saved ++ [a]) =
      if S.id a ∈ S.firstSaves saved then S.firstSaves saved
      else S.firstSaves saved ++ [S.id a] := by
  simp only [firstSaves, List.map_append, List.map_cons, List.map_nil, List.eraseDups_append,
    List.mem_eraseDups]
  split <;> simp_all [List.removeAll, List.eraseDups_cons]

theorem lastSave?_concat (S : Schema α O C) (saved : List α) (a : α) (i : Uuid) :
    S.lastSave? (saved ++ [a]) i = if S.id a = i then some a else S.lastSave? saved i := by
  by_cases h : S.id a = i <;> simp [lastSave?, h]

theorem id_of_lastSave? {S : Schema α O C} {saved : List α} {i : Uuid} {a : α}
    (h : S.lastSave? saved i = some a) : S.id a = i := by
  simpa using List.find?_some h

theorem lastSave?_eq_none_iff {S : Schema α O C} {saved : List α} {i : Uuid} :
    S.lastSave? saved i = none ↔ ∀ a ∈ saved, S.id a ≠ i := by
  simp [lastSave?, List.find?_eq_none]

theorem lastSave?_eq_some_iff {S : Schema α O C} {saved : List α} {i : Uuid} {a : α} :
    S.lastSave? saved i = some a ↔ S.IsLastSave saved i a := by
  simp only [lastSave?, find?_reverse_eq_some_iff, decide_eq_true_eq, decide_eq_false_iff_not,
    IsLastSave]

theorem mem_of_lastSave? {S : Schema α O C} {saved : List α} {i : Uuid} {a : α}
    (h : S.lastSave? saved i = some a) : a ∈ saved :=
  List.mem_reverse.1 (List.mem_of_find?_eq_some h)

theorem exists_lastSave?_iff {S : Schema α O C} {saved : List α} {i : Uuid} :
    (∃ a, S.lastSave? saved i = some a) ↔ ∃ a ∈ saved, S.id a = i := by
  constructor
  · intro h
    obtain ⟨a, ha⟩ := h
    exact ⟨a, mem_of_lastSave? ha, id_of_lastSave? ha⟩
  · intro h
    obtain ⟨a, ha, hid⟩ := h
    apply Option.ne_none_iff_exists'.1
    intro hnone
    exact lastSave?_eq_none_iff.1 hnone a ha hid

theorem mem_remaining_iff {S : Schema α O C} {saved : List α} {a : α} :
    a ∈ S.remaining saved ↔ S.lastSave? saved (S.id a) = some a := by
  rw [remaining, List.mem_filterMap]
  constructor
  · intro h
    obtain ⟨i, -, ha⟩ := h
    rwa [id_of_lastSave? ha]
  · intro h
    exact ⟨S.id a, List.mem_eraseDups.2 (List.mem_map_of_mem (mem_of_lastSave? h)), h⟩

end Schema

namespace Collection

theorem ofHistory_concat (S : Schema α O C) (saved : List α) (a : α) :
    ofHistory S (saved ++ [a]) = (ofHistory S saved).insert (S.id a) a := by
  simp only [ofHistory, List.foldl_append, List.foldl_cons, List.foldl_nil, save]

theorem keys_ofHistory (S : Schema α O C) (saved : List α) :
    (ofHistory S saved).keys = S.firstSaves saved := by
  induction saved using List.reverseRecOn with
  | nil => rfl
  | append_singleton saved a ih =>
    rw [ofHistory_concat, InsertionMap.keys_insert, ih, Schema.firstSaves_concat]

theorem get?_ofHistory (S : Schema α O C) (saved : List α) (i : Uuid) :
    (ofHistory S saved).get? i = S.lastSave? saved i := by
  induction saved using List.reverseRecOn with
  | nil => rfl
  | append_singleton saved a ih =>
    rw [ofHistory_concat, InsertionMap.get?_insert, ih, Schema.lastSave?_concat]

theorem values_ofHistory (S : Schema α O C) (saved : List α) :
    (ofHistory S saved).values = S.remaining saved := by
  rw [InsertionMap.values_eq_filterMap, keys_ofHistory, Schema.remaining]
  exact List.filterMap_congr fun i _ => get?_ofHistory S saved i

theorem nodup_remaining (S : Schema α O C) (saved : List α) : (S.remaining saved).Nodup := by
  have hkeys : (S.firstSaves saved).Nodup := keys_ofHistory S saved ▸ (ofHistory S saved).nodup_keys
  -- Each entity stands under an identifier of its own.
  refine hkeys.filterMap fun i j a hi hj => ?_
  rw [← Schema.id_of_lastSave? hi, ← Schema.id_of_lastSave? hj]

end Collection

end EntitySearch
