import EntitySearch.Number.Binary64
import EntitySearch.Text.Lowercase
import EntitySearch.Time.Moment

/-!
Values of the fields of an entity, and the one order on all of them. Values of one kind compare
naturally; texts compare in lower case first and as written second, so that texts that differ
never tie. Values of different kinds compare by kind, null before all others.
-/

namespace EntitySearch

inductive Value
  | text (s : String)
  | integer (i : Int)
  | float (x : Binary64)
  | boolean (b : Bool)
  | moment (t : Moment)
  | null
  deriving DecidableEq

/-- How the values of a field are read and matched. -/
inductive ValueKind
  | text
  /-- One of a closed list of names. -/
  | enum (names : List String)
  | integer
  | float
  | boolean
  | moment
  deriving DecidableEq

namespace Value

def text? : Value → Option String
  | .text s => some s
  | _ => none

def integer? : Value → Option Int
  | .integer i => some i
  | _ => none

def isNull : Value → Bool
  | .null => true
  | _ => false

def rank : Value → Nat
  | .null => 0
  | .boolean _ => 1
  | .integer _ => 2
  | .float _ => 3
  | .moment _ => 4
  | .text _ => 5

def sameKind (v w : Value) : Bool := v.rank == w.rank

def compareText (a b : String) : Ordering :=
  (Ord.compare (Text.lowercase a) (Text.lowercase b)).then (Ord.compare a b)

def compare : Value → Value → Ordering
  | .text a, .text b => compareText a b
  | .integer a, .integer b => Ord.compare a b
  | .float a, .float b => a.totalCompare b
  | .boolean a, .boolean b => Ord.compare a b
  | .moment a, .moment b => a.compare b
  | v, w => Ord.compare v.rank w.rank

/-- The value, or null in its absence. -/
def orNull {α : Type} (f : α → Value) : Option α → Value
  | some a => f a
  | none => .null

end Value

end EntitySearch
