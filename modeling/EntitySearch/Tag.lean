import EntitySearch.Json.Basic
import EntitySearch.Schema
import EntitySearch.Value.Json

/-!
Tags: one main name and any number of others, a category, and how often the tag is used. A
criterion on the name suits any of the names, while sorting goes by the main one.
-/

namespace EntitySearch

structure Tag where
  id : Uuid
  /-- The main name first. -/
  names : List String
  category : String
  usages : Int
  created : Moment
  lastEdited : Option Moment
  deriving DecidableEq

inductive TagSort
  | name
  | category
  | usages
  | created
  deriving DecidableEq

instance : Key TagSort where
  noun := "tag order key"
  all := [.name, .category, .usages, .created]
  name
    | .name => "name"
    | .category => "category"
    | .usages => "usages"
    | .created => "creation_time"
  mem_all := by rintro ⟨⟩ <;> decide
  name_injective := by rintro ⟨⟩ ⟨⟩ h <;> first | rfl | exact absurd h (by decide)

inductive TagField
  | name
  | category
  | usages
  | created
  deriving DecidableEq

instance : Key TagField where
  noun := "tag criterion"
  all := [.name, .category, .usages, .created]
  name
    | .name => "name"
    | .category => "category"
    | .usages => "usages"
    | .created => "creation_time"
  mem_all := by rintro ⟨⟩ <;> decide
  name_injective := by rintro ⟨⟩ ⟨⟩ h <;> first | rfl | exact absurd h (by decide)

namespace Tag

/-- The first name, empty for a tag without names. -/
def mainName (t : Tag) : String := t.names.headD ""

def kind : TagField → ValueKind
  | .name | .category => .text
  | .usages => .integer
  | .created => .moment

def values (t : Tag) : TagField → List Value
  | .name => t.names.map .text
  | .category => [.text t.category]
  | .usages => [.integer t.usages]
  | .created => [.moment t.created]

def sortValue (t : Tag) : TagSort → Value
  | .name => .text t.mainName
  | .category => .text t.category
  | .usages => .integer t.usages
  | .created => .moment t.created

/-- Most used first; what has no key is a name. -/
def schema : Schema Tag TagSort TagField where
  plural := "tags"
  singular := "tag"
  id := Tag.id
  kind := kind
  values := values
  sortValue := sortValue
  defaultOrder := .ofList [(.usages, .descending)]
  keyless := some .name

def toJson (t : Tag) : Json :=
  .object [
    ("id", .string t.id.text),
    ("names", .array (t.names.map .string)),
    ("category", .string t.category),
    ("usages", .integer t.usages),
    ("creation_time", .string (Timestamp.text t.created)),
    ("last_edit_time", .ofString? (t.lastEdited.map Timestamp.text))]

def members : List String :=
  ["id", "names", "category", "usages", "creation_time", "last_edit_time"]

/-- Reads a record. -/
def ofJson? (j : Json) : Option Tag := do
  let m ← j.record? members 6
  some {
    id := ← Json.required? m "id" fun j => j.string?.bind Uuid.ofText?
    names := ← Json.required? m "names" (Json.listOf? Json.string?)
    category := ← Json.required? m "category" Json.string?
    usages := ← Json.required? m "usages" Json.int64?
    created := ← Json.required? m "creation_time" fun j => j.string?.bind Timestamp.ofText?
    lastEdited := ← Json.optional? m "last_edit_time" fun j => j.string?.bind Timestamp.ofText? }

end Tag

end EntitySearch
