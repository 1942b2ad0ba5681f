import EntitySearch.ResultPage
import EntitySearch.Window

/-!
Stores of entities, and what is asked of them. A store may order and page by itself; where it
declines, the matches are ordered and cut here. Paging parameters and criteria are checked
before the store is asked anything, and faults of the store are passed on unchanged.
-/

namespace EntitySearch

/-- One page from a store, with the number of all matches. -/
structure StorePage (α : Type) where
  entities : List α
  total : Nat

/-- A collection of entities of type `α`, reached by actions of `m`. -/
structure Store (m : Type → Type) (α O C : Type) where
  /-- The entities that meet the requirements, always in the same sequence while nothing is
  written. -/
  select : List (Requirement C) → m (Except StoreError (List α))
  /-- One page in the given order, or `none` from a store that cannot order. -/
  selectWindow : List (Requirement C) → SortOrder O → Window →
    m (Except StoreError (Option (StorePage α)))
  get : Uuid → m (Except StoreError (Option α))
  /-- Writes an entity in place of the one with its identifier. -/
  upsert : α → m (Except StoreError α)

namespace Store

variable {m : Type → Type} [Monad m] {α O C : Type}

/-- The same store without an order of its own. -/
def withoutOrder (s : Store m α O C) : Store m α O C :=
  { s with selectWindow := fun _ _ _ => pure (.ok none) }

def ask {β : Type} (answer : m (Except StoreError β)) : ExceptT SearchError m β :=
  ExceptT.mk do
    match ← answer with
    | .ok b => pure (.ok b)
    | .error e => pure (.error (.store e))

def check {β : Type} (x : Except InputError β) : ExceptT SearchError m β :=
  match x with
  | .ok b => pure b
  | .error e => throw (.input e)

/-- Page `number`, from 1, of the matches of a filter in the filter's order. -/
def findPage [Key C] (S : Schema α O C) (s : Store m α O C) (today : Date) (f : Filter O C)
    (number size : Nat) : ExceptT SearchError m (ResultPage α O C) := do
  let window ← check (Window.ofPage number size)
  check (f.validate S today)
  let order := f.effectiveOrder S
  match ← ask (s.selectWindow f.requirements order window) with
  | some page => pure ⟨page.entities, page.total, number, size, f⟩
  | none =>
    let found ← ask (s.select f.requirements)
    pure ⟨window.apply (S.sort order found), found.length, number, size, f⟩

def save (s : Store m α O C) (a : α) : ExceptT SearchError m α := ask (s.upsert a)

def find (S : Schema α O C) (s : Store m α O C) (id : Uuid) : ExceptT SearchError m α := do
  match ← ask (s.get id) with
  | some a => pure a
  | none => throw (.notFound S.singular id)

end Store

end EntitySearch
