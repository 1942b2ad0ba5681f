import EntitySearch.Config
import EntitySearch.Number.Numeral

/-!
Configuration as YAML text: reading it, with the sizes checked, and writing it.
-/

namespace EntitySearch.Config

open Number Text

/-- The number that digits of the base write. -/
def ofBase? (base : Nat) (cs : List Char) : Option Nat :=
  if cs.isEmpty then none
  else do
    let ds ← cs.mapM fun c => (hexValue? c).filter (· < base)
    some (ds.foldl (fun n d => base * n + d) 0)

/-- Decimal digits without a leading zero, or digits of a base after its mark. -/
def ofDigits? : List Char → Option Nat
  | '0' :: 'x' :: cs => ofBase? 16 cs
  | '0' :: 'o' :: cs => ofBase? 8 cs
  | '0' :: 'b' :: cs => ofBase? 2 cs
  | ['0'] => some 0
  | '0' :: _ => none
  | cs => ofBase? 10 cs

/-- A plain scalar that writes a number within 64 bits, with an optional plus sign. -/
def size? : Yaml → Option Nat
  | .plain s =>
    let digits := match s.toList with
      | '+' :: cs => cs
      | cs => cs
    (ofDigits? digits).filter (· ≤ maxNat64)
  | _ => none

def limit? (y : Yaml) : Option (Option Nat) :=
  if y.isNull then some none else (size? y).map some

/-- A mapping of names to sizes, the last of equal names counting, or nothing at all. -/
def sizes? : Yaml → Option (InsertionMap String Nat)
  | .plain "" => some .empty
  | .mapping entries => do
    let named ← entries.mapM fun (key, value) => do some (← key.scalar?, ← size? value)
    some (.ofList named)
  | _ => none

/-- The value of a key that may stand once at most. -/
def member? (entries : List (String × Yaml)) (name : String) : Option (Option Yaml) :=
  match entries.filter fun e => e.1 == name with
  | [] => some none
  | [e] => some (some e.2)
  | _ => none

def read? {β : Type} (entries : List (String × Yaml)) (name : String) (value : β)
    (read : Yaml → Option β) : Option β := do
  match ← member? entries name with
  | none => some value
  | some y => read y

/-- Other keys are ignored, what is missing is as in `standard`. The sizes are not checked. -/
def ofYaml? : Yaml → Option Config
  | .plain "" => some standard
  | .mapping entries => do
    let named ← entries.mapM fun (key, value) => key.scalar?.map fun k => (k, value)
    some {
      defaultPageSize := ← read? named "default_page_size" 20 size?
      maxPageSize := ← read? named "max_page_size" (some 100) limit?
      pageSizes := ← read? named "page_sizes" .empty sizes? }
  | _ => none

def ofText (s : String) : Except ConfigTextError Config :=
  match (Yaml.ofText? s).bind ofYaml? with
  | none => .error .malformed
  | some c =>
    match c.validate with
    | .error e => .error (.invalid e)
    | .ok () => .ok c

/-- A character between double quotes: all but the printable ASCII ones by their code point. -/
def quotedChar (c : Char) : List Char :=
  if c = '"' ∨ c = '\\' then ['\\', c]
  else if 0x20 ≤ c.toNat ∧ c.toNat < 0x7f then [c]
  else '\\' :: 'U' :: hexDigits 8 c.toNat

def quotedName (s : String) : String :=
  String.ofList ('"' :: s.toList.flatMap quotedChar ++ ['"'])

/-- One entry of the page sizes. The name has a mark when it is too long to be a key without. -/
def sizeText (name : String) (size : Nat) : String :=
  let quoted := quotedName name
  if quoted.utf8ByteSize < Yaml.maxKeyBytes then s!"  {quoted}: {size}\n"
  else s!"  ? {quoted}\n  : {size}\n"

def text (c : Config) : String :=
  let limit := match c.maxPageSize with
    | some n => toString n
    | none => "null"
  let sizes := c.pageSizes.entries.map fun (name, n) => sizeText name n
  s!"default_page_size: {c.defaultPageSize}\nmax_page_size: {limit}\n" ++
    "page_sizes:\n" ++ String.join sizes

end EntitySearch.Config
