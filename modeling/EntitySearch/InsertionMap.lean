/-!
Finite maps that remember the order in which their keys first came. Writing a key again
replaces its value and leaves it at its place (`keys_insert`, `get?_insert`).
-/

namespace EntitySearch

structure InsertionMap (κ β : Type) where
  entries : List (κ × β)
  nodup_keys : (entries.map Prod.fst).Nodup
  deriving DecidableEq

namespace InsertionMap

variable {κ β : Type} [DecidableEq κ]

/-- Replaces the value of `k` where `k` stands, or appends the pair. -/
def insertEntry (k : κ) (b : β) : List (κ × β) → List (κ × β)
  | [] => [(k, b)]
  | (k', b') :: rest => if k' = k then (k, b) :: rest else (k', b') :: insertEntry k b rest

theorem keys_insertEntry (k : κ) (b : β) (l : List (κ × β)) :
    (insertEntry k b l).map Prod.fst =
      if k ∈ l.map Prod.fst then l.map Prod.fst else l.map Prod.fst ++ [k] := by
  induction l with
  | nil => simp [insertEntry]
  | cons e l ih =>
    obtain ⟨k', b'⟩ := e
    by_cases h : k' = k
    · simp [insertEntry, h]
    · by_cases hm : k ∈ l.map Prod.fst
      · simp_all [insertEntry]
      · simp_all [insertEntry, Ne.symm h]

theorem nodup_keys_insertEntry {k : κ} {b : β} {l : List (κ × β)}
    (h : (l.map Prod.fst).Nodup) : ((insertEntry k b l).map Prod.fst).Nodup := by
  rw [keys_insertEntry]
  split
  · exact h
  · next hk =>
    refine List.nodup_append.2 ⟨h, by simp, ?_⟩
    intro a ha c hc
    rintro rfl
    exact hk (List.mem_singleton.1 hc ▸ ha)

def empty : InsertionMap κ β := ⟨[], by simp⟩

def insert (m : InsertionMap κ β) (k : κ) (b : β) : InsertionMap κ β :=
  ⟨insertEntry k b m.entries, nodup_keys_insertEntry m.nodup_keys⟩

def ofList (l : List (κ × β)) : InsertionMap κ β :=
  l.foldl (fun m e => m.insert e.1 e.2) empty

def get? (m : InsertionMap κ β) (k : κ) : Option β :=
  (m.entries.find? (·.1 = k)).map Prod.snd

def keys (m : InsertionMap κ β) : List κ := m.entries.map Prod.fst

def values (m : InsertionMap κ β) : List β := m.entries.map Prod.snd

def size (m : InsertionMap κ β) : Nat := m.entries.length

def isEmpty (m : InsertionMap κ β) : Bool := m.entries.isEmpty

/-- The same pairs, in whatever order. -/
def sameEntries [DecidableEq β] (m n : InsertionMap κ β) : Bool :=
  m.size == n.size && m.entries.all fun e => n.get? e.1 == some e.2

theorem keys_insert (m : InsertionMap κ β) (k : κ) (b : β) :
    (m.insert k b).keys = if k ∈ m.keys then m.keys else m.keys ++ [k] :=
  keys_insertEntry k b m.entries

theorem get?_insert (m : InsertionMap κ β) (k k' : κ) (b : β) :
    (m.insert k b).get? k' = if k = k' then some b else m.get? k' := by
  obtain ⟨l, hl⟩ := m
  simp only [insert, get?]
  clear hl
  induction l with
  | nil => by_cases h : k = k' <;> simp [insertEntry, h]
  | cons e l ih =>
    obtain ⟨j, a⟩ := e
    by_cases hj : j = k
    · subst hj
      by_cases h : j = k' <;> simp [insertEntry, h]
    · by_cases h : j = k'
      · subst h
        simp [insertEntry, hj, Ne.symm hj]
      · simp [insertEntry, hj, h, ih]

theorem get?_eq_some_iff (m : InsertionMap κ β) (k : κ) (b : β) :
    m.get? k = some b ↔ (k, b) ∈ m.entries := by
  obtain ⟨l, hl⟩ := m
  simp only [get?]
  induction l with
  | nil => simp
  | cons e l ih =>
    obtain ⟨j, a⟩ := e
    obtain ⟨hj, hl⟩ := List.nodup_cons.1 hl
    by_cases h : j = k
    · subst h
      have hb : (j, b) ∉ l := fun hb => hj (List.mem_map.2 ⟨_, hb, rfl⟩)
      simp [hb, eq_comm]
    · simp [h, Ne.symm h, ih hl]

end InsertionMap

end EntitySearch
