import EntitySearch.Config
import EntitySearch.Query
import EntitySearch.Window

/-!
Search requests as they come from outside, and what they resolve to under a configuration. The
first fault counts, in the order page, size, query and sort. An order of its own replaces the one
in the query text, even when it is empty.
-/

namespace EntitySearch

structure Request where
  page : Option Nat
  pageSize : Option Nat
  query : Option String
  sort : Option String

structure ResolvedRequest (O C : Type) where
  filter : Filter O C
  number : Nat
  size : Nat

namespace Request

def members : List String := ["page", "page_size", "query", "sort"]

/-- Reads a record; what is missing is not asked for. -/
def ofJson? (j : Json) : Option Request := do
  let m ← j.record? members 0
  some {
    page := ← Json.optional? m "page" Json.nat64?
    pageSize := ← Json.optional? m "page_size" Json.nat64?
    query := ← Json.optional? m "query" Json.string?
    sort := ← Json.optional? m "sort" Json.string? }

/-- A size within the limit. -/
def checkLimit (limit : Option Nat) (size : Nat) : Except InputError Unit :=
  match limit with
  | some max => if max < size then .error (.pageSizeTooLarge size max) else .ok ()
  | none => .ok ()

def resolve {α O C : Type} [DecidableEq O] [Key O] [Key C] (S : Schema α O C) (c : Config)
    (r : Request) : Except InputError (ResolvedRequest O C) := do
  let number := r.page.getD 1
  let size := r.pageSize.getD (c.pageSizeFor S.plural)
  if number < 1 then throw (.pageNumber number)
  if size < 1 then throw (.pageSize size)
  checkLimit c.maxPageSize size
  let filter ← match r.query with
    | some text => Query.read S text
    | none => pure .empty
  match r.sort with
  | some text => pure ⟨filter.withOrder (← SortOrder.read text), number, size⟩
  | none => pure ⟨filter, number, size⟩

end Request

end EntitySearch
