import EntitySearch.Number.Decimal
import EntitySearch.Time.Period
import EntitySearch.Value

/-!
What a written value denotes for each kind of field: the first and the last of the values it
stands for. A date stands for all moments of its period, every other value for itself alone.
The text comes here with its escapes removed.
-/

namespace EntitySearch

open Text Number

/-- Decimal, with blanks around it, in 64 bits. -/
def readInteger? (cs : List Char) : Option Int := (int? (trim cs)).filter fitsInt64

/-- A name of the list, the text being trimmed and put in ASCII lower case. -/
def readName? (names : List String) (cs : List Char) : Option String :=
  names.find? (· == String.ofList (lowerAscii (trim cs)))

/-- A decimal, or two of them with `/` or `:` between: their quotient, unless the second is
zero. -/
def readFloat? (cs : List Char) : Option Binary64 :=
  let number (cs : List Char) := binary64? (trim cs)
  match cutAt? (fun c => c == '/' || c == ':') cs with
  | none => number cs
  | some (a, b) => do
    let divisor ← number b
    if divisor.isZero then none else some ((← number a).div divisor)

/-- One of four words for each answer, in any ASCII letter case and without blanks. -/
def readBoolean? (cs : List Char) : Option Bool :=
  let word := String.ofList (lowerAscii cs)
  if ["1", "y", "yes", "true"].contains word then some true
  else if ["0", "n", "no", "false"].contains word then some false
  else none

def readPeriod? (today : Date) (cs : List Char) : Option Period :=
  Period.ofText? today (lowerAscii (trim cs))

/-- The first and the last value that a text denotes; a text field has no such bounds. -/
def ValueKind.span? (today : Date) : ValueKind → List Char → Option (Value × Value)
  | .text, _ => none
  | .enum names, cs => (readName? names cs).map fun n => (.text n, .text n)
  | .integer, cs => (readInteger? cs).map fun i => (.integer i, .integer i)
  | .float, cs => (readFloat? cs).map fun x => (.float x, .float x)
  | .boolean, cs => (readBoolean? cs).map fun b => (.boolean b, .boolean b)
  | .moment, cs => (readPeriod? today cs).map fun p => (.moment p.first, .moment p.last)

/-- The kinds that a range makes sense for. -/
def ValueKind.isOrdered : ValueKind → Bool
  | .integer | .float | .moment => true
  | .text | .enum _ | .boolean => false

end EntitySearch
