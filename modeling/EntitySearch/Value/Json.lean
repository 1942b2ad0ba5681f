import EntitySearch.Json.Basic
import EntitySearch.Time.Timestamp
import EntitySearch.Value

/-!
Field values as JSON, without a mark of their kind: a moment is written as a string, and a string
is always read as a text.
-/

namespace EntitySearch.Value

def toJson : Value → Json
  | .text s => .string s
  | .integer i => .integer i
  | .float x => if x.isFinite then .float x else .null
  | .boolean b => .boolean b
  | .moment t => .string (Timestamp.text t)
  | .null => .null

/-- A whole number within signed 64 bits is an integer, every other number a float. -/
def ofJson? : Json → Option Value
  | .null => some .null
  | .boolean b => some (.boolean b)
  | .integer i =>
    some (if Number.fitsInt64 i then .integer i
      else .float (.ofRatio (i < 0) i.natAbs 1))
  | .float x => some (.float x)
  | .string s => some (.text s)
  | .array _ | .object _ => none

end EntitySearch.Value
