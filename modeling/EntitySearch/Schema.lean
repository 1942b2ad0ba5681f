import EntitySearch.SortOrder

/-!
What a type of entity declares to be searched: its names, its identifier, and for each criterion
key and sort key the values it has under that key.
-/

namespace EntitySearch

/-- The entity type `α` with sort keys `O` and criterion keys `C`. -/
structure Schema (α O C : Type) where
  plural : String
  singular : String
  id : α → Uuid
  kind : C → ValueKind
  /-- The values that criteria on a key are put to; one that suits is enough. -/
  values : α → C → List Value
  sortValue : α → O → Value
  /-- The order of entities where none is asked for. -/
  defaultOrder : SortOrder O
  /-- The key of criteria that are written without one. -/
  keyless : Option C

namespace Schema

variable {α O C : Type}

def compare (S : Schema α O C) (o : SortOrder O) (a b : α) : Ordering :=
  SortOrder.compareBy S.sortValue a b o.entries

def sort (S : Schema α O C) (o : SortOrder O) (as : List α) : List α :=
  SortOrder.sort S.sortValue o as

end Schema

end EntitySearch
