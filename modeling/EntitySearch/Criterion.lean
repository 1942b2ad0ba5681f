import EntitySearch.Text.Escape

/-!
Criteria as callers write them: raw text, escapes included. What the text means is decided by
the kind of the key when the criterion is compiled.
-/

namespace EntitySearch

open Text

inductive Criterion
  | plain (text : String)
  /-- Any one of the texts. -/
  | anyOf (texts : List String)
  /-- From `min` to `max`, both included; a missing bound leaves its side open. -/
  | range (min max : Option String)
  deriving DecidableEq

namespace Criterion

/-- An empty side of a written range leaves that side open. -/
def bound (cs : List Char) : Option String :=
  if cs.isEmpty then none else some (String.ofList cs)

/-- `a..b`, `a..` and `..b` are ranges, `a,b` is a choice, all else is plain. Escaped marks do
not count, and the leftmost `..` decides. -/
def ofText (s : String) : Criterion :=
  match cutBare? ['.', '.'] s.toList with
  | some (min, max) => .range (bound min) (bound max)
  | none =>
    let parts := splitBare ',' s.toList
    if 1 < parts.length then .anyOf (parts.map String.ofList) else .plain s

end Criterion

/-- One criterion put to one key. -/
structure Requirement (C : Type) where
  key : C
  criterion : Criterion
  negated : Bool
  deriving DecidableEq

end EntitySearch
