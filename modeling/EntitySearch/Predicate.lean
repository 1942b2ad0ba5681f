import EntitySearch.Matcher
import EntitySearch.Schema

/-!
Requirements made ready to be put to entities. A requirement holds when one of the entity's
values under the key suits one of the matchers, and the other way round when it is negated; a
predicate holds when all its requirements do.
-/

namespace EntitySearch

structure Test (C : Type) where
  key : C
  negated : Bool
  matchers : List Matcher

abbrev Predicate (C : Type) := List (Test C)

variable {α O C : Type} [Key C]

namespace Test

def ofRequirement (S : Schema α O C) (today : Date) (r : Requirement C) :
    Except InputError (Test C) := do
  let matchers ← Matcher.ofCriterion today (Key.name r.key) (S.kind r.key) r.criterion
  pure ⟨r.key, r.negated, matchers⟩

omit [Key C] in
def holds (S : Schema α O C) (t : Test C) (a : α) : Bool :=
  (S.values a t.key).any (fun v => t.matchers.any (·.accepts v)) != t.negated

end Test

namespace Predicate

/-- Fails with the fault of the first requirement that has one. -/
def ofRequirements (S : Schema α O C) (today : Date) (rs : List (Requirement C)) :
    Except InputError (Predicate C) :=
  rs.mapM (Test.ofRequirement S today)

omit [Key C] in
def holds (S : Schema α O C) (p : Predicate C) (a : α) : Bool := p.all (·.holds S a)

end Predicate

end EntitySearch
