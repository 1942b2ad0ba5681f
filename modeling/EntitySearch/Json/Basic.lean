import EntitySearch.InsertionMap
import EntitySearch.Number.Binary64
import EntitySearch.Number.Numeral

/-!
JSON values, and reading parts of them. Whole numbers that 64 bits hold are kept apart from all
other numbers. An object keeps its members as written; as a map, the last member of a name
counts.
-/

namespace EntitySearch

inductive Json
  | null
  | boolean (b : Bool)
  /-- A whole number from `-2 ^ 63` to `2 ^ 64 - 1`. -/
  | integer (i : Int)
  | float (x : Binary64)
  | string (s : String)
  | array (items : List Json)
  | object (members : List (String × Json))

namespace Json

def string? : Json → Option String
  | .string s => some s
  | _ => none

def boolean? : Json → Option Bool
  | .boolean b => some b
  | _ => none

def integer? : Json → Option Int
  | .integer i => some i
  | _ => none

def int64? (j : Json) : Option Int := j.integer?.filter Number.fitsInt64

/-- A whole number that is not negative and at most `bound`. -/
def natUpTo? (bound : Nat) (j : Json) : Option Nat :=
  (j.integer?.filter fun i : Int => 0 ≤ i && i ≤ bound).map Int.toNat

def nat64? : Json → Option Nat := natUpTo? Number.maxNat64

def nat32? : Json → Option Nat := natUpTo? (UInt32.size - 1)

def array? : Json → Option (List Json)
  | .array items => some items
  | _ => none

def object? : Json → Option (InsertionMap String Json)
  | .object members => some (.ofList members)
  | _ => none

/-- The members of a record, by name. A record is an object, or an array that holds the values of
the named members in their order; from the array, members after the first `least` may be left
off at the end. -/
def record? (names : List String) (least : Nat) : Json → Option (InsertionMap String Json)
  | .object members => some (.ofList members)
  | .array items =>
    if least ≤ items.length ∧ items.length ≤ names.length then some (.ofList (names.zip items))
    else none
  | _ => none

/-- A name out of a fixed list: a string, or an object with null under that name alone. -/
def name? : Json → Option String
  | .string s => some s
  | .object members =>
    match (InsertionMap.ofList members).entries with
    | [(name, .null)] => some name
    | _ => none
  | _ => none

/-- A list of which every item can be read. -/
def listOf? {β : Type} (read : Json → Option β) (j : Json) : Option (List β) :=
  j.array?.bind fun items => items.mapM read

/-- Null, or something that can be read. -/
def orNull? {β : Type} (read : Json → Option β) : Json → Option (Option β)
  | .null => some none
  | j => (read j).map some

/-- A member that must be there. -/
def required? {β : Type} (m : InsertionMap String Json) (name : String) (read : Json → Option β) :
    Option β :=
  (m.get? name).bind read

/-- A member that may be missing or null. -/
def optional? {β : Type} (m : InsertionMap String Json) (name : String) (read : Json → Option β) :
    Option (Option β) :=
  match m.get? name with
  | none => some none
  | some j => j.orNull? read

/-- A member that has a value of its own when it is missing. -/
def defaulted? {β : Type} (m : InsertionMap String Json) (name : String) (value : β)
    (read : Json → Option β) : Option β :=
  match m.get? name with
  | none => some value
  | some j => read j

/-- A string, or null for none. -/
def ofString? : Option String → Json
  | some s => .string s
  | none => .null

end Json

end EntitySearch
