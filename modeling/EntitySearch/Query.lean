import EntitySearch.Filter

/-!
Query text: tokens between blanks. `key:value` requires, `-` before a token negates, a token
without a key is put to the keyless criterion, and `sort:key` or `sort:key,direction` appends to
the order, where `-` reverses. Every token is read by itself, so the first token with a fault
decides the error and sort tokens may stand anywhere among the others.
-/

namespace EntitySearch.Query

open Text

inductive Item (O C : Type)
  | requirement (r : Requirement C)
  | order (key : O) (direction : Direction)

variable {α O C : Type} [DecidableEq O] [Key O] [Key C]

def unescape (s : List Char) : Except InputError (List Char) :=
  match unescape? s with
  | some cs => .ok cs
  | none => .error (.escape (String.ofList s))

/-- The value of a sort token: a key, and after a comma a direction. Its escapes are removed
before it is cut. -/
def readSort (value : List Char) : Except InputError (O × Direction) := do
  let cs ← unescape value
  match cutAt? (· == ',') cs with
  | none => pure (← Key.read (String.ofList cs), .ascending)
  | some (key, direction) =>
    let k ← Key.read (String.ofList key)
    pure (k, ← Direction.read (String.ofList direction))

/-- A token without its minus sign; a minus sign alone is no negation. -/
def takeMinus : List Char → Bool × List Char
  | '-' :: c :: cs => (true, c :: cs)
  | cs => (false, cs)

/-- The item that a token without its minus sign writes. -/
def readBody (S : Schema α O C) (negated : Bool) (body : List Char) :
    Except InputError (Item O C) :=
  match cutBare? [':'] body with
  | none =>
    match S.keyless with
    | none => .error (.keylessCriterion S.singular)
    | some key => .ok (.requirement ⟨key, .ofText (String.ofList body), negated⟩)
  | some (key, value) => do
    let name := String.ofList (lowerAscii (← unescape key))
    if name = "sort" then
      let (k, d) ← readSort value
      pure (.order k (if negated then d.reversed else d))
    else
      let k ← Key.read name
      pure (.requirement ⟨k, .ofText (String.ofList value), negated⟩)

def readToken (S : Schema α O C) (token : List Char) : Except InputError (Item O C) :=
  let (negated, body) := takeMinus token
  readBody S negated body

def requirement? : Item O C → Option (Requirement C)
  | .requirement r => some r
  | .order _ _ => none

def orderPair? : Item O C → Option (O × Direction)
  | .requirement _ => none
  | .order k d => some (k, d)

def ofItems (items : List (Item O C)) : Filter O C :=
  ⟨items.filterMap requirement?, .ofList (items.filterMap orderPair?)⟩

def read (S : Schema α O C) (s : String) : Except InputError (Filter O C) :=
  ((words s.toList).mapM (readToken S)).map ofItems

end EntitySearch.Query
