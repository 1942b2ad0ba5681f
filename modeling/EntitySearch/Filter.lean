import EntitySearch.Predicate

/-!
Filters: what to look for and in which order. A filter without an order of its own uses the
order of the entity type.
-/

namespace EntitySearch

structure Filter (O C : Type) where
  requirements : List (Requirement C)
  order : SortOrder O

namespace Filter

variable {α O C : Type}

def empty : Filter O C := ⟨[], .empty⟩

def require (f : Filter O C) (key : C) (criterion : Criterion) (negated : Bool) : Filter O C :=
  { f with requirements := f.requirements ++ [⟨key, criterion, negated⟩] }

def withOrder (f : Filter O C) (order : SortOrder O) : Filter O C := { f with order }

def requirementsOn [DecidableEq C] (f : Filter O C) (key : C) : List (Requirement C) :=
  f.requirements.filter (·.key = key)

def effectiveOrder (S : Schema α O C) (f : Filter O C) : SortOrder O :=
  if f.order.isEmpty then S.defaultOrder else f.order

def compile [Key C] (S : Schema α O C) (today : Date) (f : Filter O C) :
    Except InputError (Predicate C) :=
  Predicate.ofRequirements S today f.requirements

/-- Whether all requirements have a meaning; the fault of the first that has none. -/
def validate [Key C] (S : Schema α O C) (today : Date) (f : Filter O C) : Except InputError Unit :=
  (f.compile S today).map fun _ => ()

/-- The same requirements in the same sequence, and orders that give each key the same
direction, whatever the rank of the keys. -/
def agrees [DecidableEq O] [DecidableEq C] (f g : Filter O C) : Bool :=
  f.requirements == g.requirements && f.order.sameEntries g.order

end Filter

end EntitySearch
