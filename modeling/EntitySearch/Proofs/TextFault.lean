import EntitySearch.Query
import EntitySearch.Proofs.Outcome

/-!
Faults of texts. Whatever a query text or an order text cannot be read for is written in it: a
name, a direction, an escape or a token without a key (`Query.failsOnly_read`,
`SortOrder.failsOnly_read`). Numbers of pages and values of criteria are no business of either
reader.
-/

namespace EntitySearch

open Outcome Text

/-- The faults that a text can have by itself. -/
def InputError.IsOfText : InputError → Prop
  | .unknownKey _ _ | .direction _ | .escape _ | .keylessCriterion _ => True
  | _ => False

theorem Key.failsOnly_read {K : Type} [Key K] (s : String) :
    FailsOnly InputError.IsOfText (Key.read (K := K) s) := by
  intro e he
  rw [Key.eq_of_read_eq_error he]
  trivial

theorem Direction.failsOnly_read (s : String) :
    FailsOnly InputError.IsOfText (Direction.read s) := by
  rw [Direction.read]
  cases ofName? (String.ofList (lowerAscii s.toList)) with
  | some d => exact .ok d
  | none => exact .error trivial

namespace SortOrder

variable {K : Type} [Key K]

theorem failsOnly_readPair (cs : List Char) :
    FailsOnly InputError.IsOfText (readPair (K := K) cs) := by
  rw [readPair]
  cases cutAt? (· == ':') cs with
  | none => exact (Key.failsOnly_read _).bind fun _ => .ok _
  | some parts =>
    refine (Direction.failsOnly_read _).bind fun _ => ?_
    exact (Key.failsOnly_read _).bind fun _ => .ok _

theorem failsOnly_read [DecidableEq K] (s : String) :
    FailsOnly InputError.IsOfText (read (K := K) s) :=
  (FailsOnly.mapM failsOnly_readPair _).bind fun _ => .ok _

end SortOrder

namespace Query

variable {α O C : Type} [Key O] [Key C]

theorem failsOnly_unescape (cs : List Char) : FailsOnly InputError.IsOfText (unescape cs) := by
  rw [unescape]
  cases unescape? cs with
  | some us => exact .ok us
  | none => exact .error trivial

omit [Key C] in
theorem failsOnly_readSort (value : List Char) :
    FailsOnly InputError.IsOfText (readSort (O := O) value) := by
  refine (failsOnly_unescape value).bind fun cs => ?_
  cases cutAt? (· == ',') cs with
  | none => exact (Key.failsOnly_read _).bind fun _ => .ok _
  | some parts =>
    refine (Key.failsOnly_read _).bind fun _ => ?_
    exact (Direction.failsOnly_read _).bind fun _ => .ok _

variable (S : Schema α O C)

theorem failsOnly_readBody (negated : Bool) (body : List Char) :
    FailsOnly InputError.IsOfText (readBody S negated body) := by
  rw [readBody]
  cases cutBare? [':'] body with
  | none =>
    cases S.keyless with
    | none => exact .error trivial
    | some k => exact .ok _
  | some parts =>
    refine (failsOnly_unescape _).bind fun name => ?_
    by_cases hsort : String.ofList (lowerAscii name) = "sort"
    · simp only [if_pos hsort]
      exact (failsOnly_readSort _).bind fun _ => .ok _
    · simp only [if_neg hsort]
      exact (Key.failsOnly_read _).bind fun _ => .ok _

theorem failsOnly_read [DecidableEq O] (s : String) :
    FailsOnly InputError.IsOfText (read S s) :=
  (FailsOnly.mapM (fun _ => failsOnly_readBody S _ _) _).map ofItems

end Query

end EntitySearch
