import EntitySearch.InsertionMap
import EntitySearch.Key
import EntitySearch.Text.Blank
import EntitySearch.Value

/-!
Sort orders: keys with a direction each, the first key deciding and every later one breaking
ties. A key stands once, at the place where it first came and with the direction it was given
last. Sorting is stable, so entities that tie on every key keep their places.
-/

namespace EntitySearch

open Text

inductive Direction
  | ascending
  | descending
  deriving DecidableEq

namespace Direction

def reversed : Direction → Direction
  | .ascending => .descending
  | .descending => .ascending

def apply : Direction → Ordering → Ordering
  | .ascending, o => o
  | .descending, o => o.swap

def shortName : Direction → String
  | .ascending => "asc"
  | .descending => "desc"

def longName : Direction → String
  | .ascending => "ascending"
  | .descending => "descending"

/-- A short or long name, exactly as written. -/
def ofName? (s : String) : Option Direction :=
  [.ascending, .descending].find? fun d => d.shortName == s || d.longName == s

/-- A short or long name in any ASCII letter case, with no blanks around it. -/
def read (s : String) : Except InputError Direction :=
  match ofName? (String.ofList (lowerAscii s.toList)) with
  | some d => .ok d
  | none => .error (.direction s)

end Direction

abbrev SortOrder (K : Type) := InsertionMap K Direction

namespace SortOrder

variable {K : Type} [DecidableEq K] [Key K]

/-- The pair that one part of an order text writes, its direction read before its key; without
a direction it ascends. -/
def readPair (cs : List Char) : Except InputError (K × Direction) :=
  match cutAt? (· == ':') cs with
  | none => do pure (← Key.read (String.ofList (trim cs)), .ascending)
  | some (key, direction) => do
    let d ← Direction.read (String.ofList direction)
    pure (← Key.read (String.ofList (trim key)), d)

/-- `key:direction` pairs between commas; blanks around a pair or its key and empty pairs do
not count. -/
def read (s : String) : Except InputError (SortOrder K) := do
  let parts := ((s.toList.splitOn ',').map trim).filter (!·.isEmpty)
  pure (InsertionMap.ofList (← parts.mapM readPair))

def text (o : SortOrder K) : String :=
  ",".intercalate (o.entries.map fun (k, d) => Key.name k ++ ":" ++ d.shortName)

/-- Compares by one key after another until one of them decides. -/
def compareBy {α : Type} (value : α → K → Value) (a b : α) : List (K × Direction) → Ordering
  | [] => .eq
  | (k, d) :: pairs => (d.apply ((value a k).compare (value b k))).then (compareBy value a b pairs)

def sort {α : Type} (value : α → K → Value) (o : SortOrder K) (as : List α) : List α :=
  as.mergeSort fun a b => (compareBy value a b o.entries).isLE

end SortOrder

end EntitySearch
