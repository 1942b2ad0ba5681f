import EntitySearch.InsertionMap
import EntitySearch.Json.Basic
import EntitySearch.Yaml.Reader

/-!
Configuration of paging: the page size of requests that give none, by resource where one is
listed, and the largest size a request may give. A valid configuration has all its sizes between
1 and the largest.
-/

namespace EntitySearch

structure Config where
  defaultPageSize : Nat
  /-- No limit when missing. -/
  maxPageSize : Option Nat
  /-- Page sizes of single resources, by plural name. -/
  pageSizes : InsertionMap String Nat

inductive ConfigError
  | zeroPageSize (name : String)
  | pageSizeOverMax (size : Nat) (name : String) (max : Nat)
  deriving DecidableEq

def ConfigError.message : ConfigError → String
  | .zeroPageSize name => s!"page size for '{name}' must be at least 1"
  | .pageSizeOverMax size name max => s!"page size {size} for '{name}' exceeds max_page_size {max}"

/-- Why a configuration text is refused. -/
inductive ConfigTextError
  /-- The text has no such form. -/
  | malformed
  | invalid (e : ConfigError)
  deriving DecidableEq

namespace Config

def standard : Config := ⟨20, some 100, .empty⟩

def pageSizeFor (c : Config) (resource : String) : Nat :=
  (c.pageSizes.get? resource).getD c.defaultPageSize

def checkSize (max : Option Nat) (name : String) (size : Nat) : Except ConfigError Unit :=
  if size = 0 then .error (.zeroPageSize name)
  else match max with
    | some max => if max < size then .error (.pageSizeOverMax size name max) else .ok ()
    | none => .ok ()

/-- The fault of the first size that has one, the default size first. -/
def validate (c : Config) : Except ConfigError Unit := do
  checkSize c.maxPageSize "default_page_size" c.defaultPageSize
  c.pageSizes.entries.forM fun (name, size) => checkSize c.maxPageSize name size

/-- The same sizes and the same limit. -/
def agrees (c d : Config) : Bool :=
  c.defaultPageSize == d.defaultPageSize && c.maxPageSize == d.maxPageSize &&
    c.pageSizes.sameEntries d.pageSizes

def toJson (c : Config) : Json :=
  .object [
    ("default_page_size", .integer c.defaultPageSize),
    ("max_page_size", match c.maxPageSize with | some n => .integer n | none => .null),
    ("page_sizes", .object (c.pageSizes.entries.map fun (name, n) => (name, .integer n)))]

def members : List String := ["default_page_size", "max_page_size", "page_sizes"]

/-- Reads a record; what is missing is as in `standard`. The sizes are not checked. -/
def ofJson? (j : Json) : Option Config := do
  let m ← j.record? members 0
  let sizes (j : Json) : Option (InsertionMap String Nat) := do
    let entries ← (← j.object?).entries.mapM fun (name, j) => j.nat64?.map fun n => (name, n)
    some (.ofList entries)
  some {
    defaultPageSize := ← Json.defaulted? m "default_page_size" 20 Json.nat64?
    maxPageSize := ← Json.defaulted? m "max_page_size" (some 100) (Json.orNull? Json.nat64?)
    pageSizes := ← Json.defaulted? m "page_sizes" .empty sizes }

end Config

end EntitySearch
