import EntitySearch.Criterion
import EntitySearch.Error
import EntitySearch.Value.Reader
import EntitySearch.Wildcard

/-!
Matchers: criteria made ready to be put to single values. A text criterion becomes a wildcard
pattern, every other one an interval of values with both ends included; a matcher never accepts
a value of another kind than its own.
-/

namespace EntitySearch

open Text

inductive Matcher
  | pattern (p : Pattern)
  /-- From `first` to `last`; a missing end is open. -/
  | interval (first last : Option Value)
  deriving DecidableEq

namespace Matcher

def accepts : Matcher → Value → Bool
  | .pattern p, .text s => p.matchesText s.toList
  | .pattern _, _ => false
  | .interval first last, v =>
    !v.isNull && first.all (fun b => v.sameKind b && (v.compare b).isGE) &&
      last.all fun b => v.sameKind b && (v.compare b).isLE

/-- The first and the last value that a raw text denotes. -/
def readSpan (today : Date) (key : String) (kind : ValueKind) (raw : String) :
    Except InputError (Value × Value) :=
  match unescape? raw.toList with
  | none => .error (.escape raw)
  | some cs =>
    match kind.span? today cs with
    | none => .error (.criterionValue key raw)
    | some span => .ok span

def ofText (today : Date) (key : String) (kind : ValueKind) (raw : String) :
    Except InputError Matcher :=
  match kind with
  | .text =>
    match Pattern.ofText? raw.toList with
    | none => .error (.escape raw)
    | some p => .ok (.pattern p)
  | kind => do
    let (first, last) ← readSpan today key kind raw
    pure (.interval (some first) (some last))

/-- One written end of a range, for the kinds that have ranges. -/
def readBound (today : Date) (key : String) (kind : ValueKind) (pick : Value × Value → Value) :
    Option String → Except InputError (Option Value)
  | none => .ok none
  | some raw =>
    if kind.isOrdered then (readSpan today key kind raw).map fun span => some (pick span)
    else .error (.rangeNotAllowed key)

/-- The matchers of which one must accept. A range goes from the first value of its lower end to
the last value of its upper end. -/
def ofCriterion (today : Date) (key : String) (kind : ValueKind) :
    Criterion → Except InputError (List Matcher)
  | .plain raw => do pure [← ofText today key kind raw]
  | .anyOf raws => raws.mapM (ofText today key kind)
  | .range none none => .error (.emptyRange key)
  | .range min max => do
    let first ← readBound today key kind Prod.fst min
    let last ← readBound today key kind Prod.snd max
    pure [.interval first last]

end Matcher

end EntitySearch
