import EntitySearch.Filter

/-!
One page of a search: its entities, the number of all matches, and what was asked for.
-/

namespace EntitySearch

structure ResultPage (α O C : Type) where
  entities : List α
  total : Nat
  number : Nat
  size : Nat
  filter : Filter O C

namespace ResultPage

variable {α O C : Type}

/-- How many pages of this size the matches fill, counting a part of a page; undefined only for
matches on pages of size 0. -/
def totalPages? (p : ResultPage α O C) : Option Nat :=
  if p.total = 0 then some 0
  else if p.size = 0 then none
  else some ((p.total + p.size - 1) / p.size)

def hasNext? (p : ResultPage α O C) : Option Bool := p.totalPages?.map fun n => p.number < n

def hasPrevious (p : ResultPage α O C) : Bool := 1 < p.number

end ResultPage

end EntitySearch
