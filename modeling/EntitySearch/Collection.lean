import EntitySearch.Store

/-!
Collections kept in memory: one entity for each identifier, in the sequence in which the
identifiers were first saved. As a store, a collection orders by itself or leaves that to the
caller.
-/

namespace EntitySearch

abbrev Collection (α : Type) := InsertionMap Uuid α

namespace Collection

variable {α O C : Type}

def save (S : Schema α O C) (c : Collection α) (a : α) : Collection α := c.insert (S.id a) a

/-- The collection that a history of saves leaves. -/
def ofHistory (S : Schema α O C) (saved : List α) : Collection α := saved.foldl (save S) .empty

def select [Key C] (S : Schema α O C) (today : Date) (c : Collection α)
    (rs : List (Requirement C)) : Except StoreError (List α) :=
  match Predicate.ofRequirements S today rs with
  | .error e => .error (.query "in-memory" e.message)
  | .ok p => .ok (c.values.filter (p.holds S))

def selectWindow [Key C] (S : Schema α O C) (today : Date) (c : Collection α)
    (rs : List (Requirement C)) (order : SortOrder O) (w : Window) :
    Except StoreError (StorePage α) :=
  (c.select S today rs).map fun found => ⟨w.apply (S.sort order found), found.length⟩

/-- The collection as a store; `ordering` says whether it orders and pages by itself. -/
def store [Key C] (S : Schema α O C) (today : Date) (ordering : Bool) :
    Store (StateM (Collection α)) α O C where
  select rs := do pure ((← get).select S today rs)
  selectWindow rs order w := do
    if ordering then pure (((← get).selectWindow S today rs order w).map some)
    else pure (.ok none)
  get id := do pure (.ok ((← get).get? id))
  upsert a := do
    modify fun c => c.save S a
    pure (.ok a)

end Collection

end EntitySearch
