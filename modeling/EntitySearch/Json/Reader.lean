import EntitySearch.Json.Basic
import EntitySearch.Text.Hex

/-!
Reading JSON text. A value may be nested in at most 127 arrays and objects, and a number whose
size no binary64 number reaches is refused.

A number with a fraction or an exponent, or past 64 bits, is read in two roundings: its leading
digits, as many as 64 bits hold, are rounded first, and the result is multiplied or divided by
the rounded power of ten.
-/

namespace EntitySearch.Json

open Number Text

def isSpace (c : Char) : Bool := c == ' ' || c == '\t' || c == '\n' || c == '\r'

def skipSpace (cs : List Char) : List Char := cs.dropWhile isSpace

/-- Takes up digits while the number stays within 64 bits; also gives how many it took. -/
def takeDigits (n taken : Nat) : List Char → Nat × Nat
  | [] => (n, taken)
  | d :: ds =>
    let n' := 10 * n + (d.toNat - '0'.toNat)
    if maxNat64 < n' then (n, taken) else takeDigits n' (taken + 1) ds

def powerOfTen (k : Nat) : Binary64 := .ofNat (Nat.pow 10 k)

/-- Divides by powers of ten, at most `10 ^ 308` at a time. -/
def divideByPower (x : Binary64) (k : Nat) : Binary64 :=
  if x.isZero then x
  else if h : k ≤ 308 then x.div (powerOfTen k)
  else divideByPower (x.div (powerOfTen 308)) (k - 308)
termination_by k

/-- `n · 10 ^ exponent`, unless that is too large. -/
def scale? (n : Nat) (exponent : Int) : Option Binary64 :=
  let x := Binary64.ofNat n
  if exponent < 0 then some (divideByPower x (-exponent).toNat)
  else if 308 < exponent then (if x.isZero then some x else none)
  else
    let y := x.mulFinite (powerOfTen exponent.toNat)
    if y.isFinite then some y else none

/-- The text of a number, cut into its parts. -/
structure NumberParts where
  negative : Bool
  whole : List Char
  fraction : Option (List Char)
  exponent : Option Int

def takeFraction : List Char → Option (Option (List Char) × List Char)
  | '.' :: cs =>
    let ds := cs.takeWhile Char.isDigit
    if ds.isEmpty then none else some (some ds, cs.drop ds.length)
  | cs => some (none, cs)

def takeExponent : List Char → Option (Option Int × List Char)
  | c :: cs =>
    if c = 'e' ∨ c = 'E' then
      let (negative, rest) := match cs with
        | '-' :: rest => (true, rest)
        | '+' :: rest => (false, rest)
        | rest => (false, rest)
      let ds := rest.takeWhile Char.isDigit
      if ds.isEmpty then none
      else
        let n : Int := ofDigits ds
        some (some (if negative then -n else n), rest.drop ds.length)
    else some (none, c :: cs)
  | [] => some (none, [])

def takeParts (cs : List Char) : Option (NumberParts × List Char) := do
  let (negative, rest) := match cs with
    | '-' :: rest => (true, rest)
    | rest => (false, rest)
  let whole := rest.takeWhile Char.isDigit
  if whole.isEmpty ∨ (whole.head? = some '0' ∧ 1 < whole.length) then none
  else
    let (fraction, rest) ← takeFraction (rest.drop whole.length)
    let (exponent, rest) ← takeExponent rest
    some (⟨negative, whole, fraction, exponent⟩, rest)

/-- Digits that 64 bits do not hold count as zeros before the point and for nothing after it. -/
def NumberParts.toFloat? (p : NumberParts) : Option Binary64 :=
  let (n, taken) := takeDigits 0 0 p.whole
  let dropped := p.whole.length - taken
  let (n, places) := takeDigits n 0 (p.fraction.getD [])
  let sized := scale? n (dropped - places + p.exponent.getD 0)
  sized.map fun x => .ofMagnitude p.negative x.magnitude

def NumberParts.toJson? (p : NumberParts) : Option Json :=
  let n := ofDigits p.whole
  let i : Int := if p.negative then -n else n
  if p.fraction.isNone ∧ p.exponent.isNone ∧
      (if p.negative then n ≠ 0 ∧ fitsInt64 i else n ≤ maxNat64) then
    some (.integer i)
  else p.toFloat?.map .float

def takeNumber (cs : List Char) : Option (Json × List Char) := do
  let (p, rest) ← takeParts cs
  some (← p.toJson?, rest)

/-- The code unit that four hexadecimal digits write. -/
def takeUnit : List Char → Option (Nat × List Char)
  | a :: b :: c :: d :: rest => (ofHexDigits? [a, b, c, d]).map fun n => (n, rest)
  | _ => none

/-- The character after a backslash and `u`; a high surrogate needs a low one after it. -/
def takeUnicode (cs : List Char) : Option (Char × List Char) := do
  let (n, rest) ← takeUnit cs
  if 0xD800 ≤ n ∧ n < 0xDC00 then
    match rest with
    | '\\' :: 'u' :: rest =>
      let (low, rest) ← takeUnit rest
      if 0xDC00 ≤ low ∧ low < 0xE000 then
        some (Char.ofNat (0x10000 + (n - 0xD800) * 0x400 + (low - 0xDC00)), rest)
      else none
    | _ => none
  else if 0xDC00 ≤ n ∧ n < 0xE000 then none
  else some (Char.ofNat n, rest)

/-- The character after a backslash. -/
def takeEscape : List Char → Option (Char × List Char)
  | '"' :: rest => some ('"', rest)
  | '\\' :: rest => some ('\\', rest)
  | '/' :: rest => some ('/', rest)
  | 'b' :: rest => some ('\x08', rest)
  | 'f' :: rest => some ('\x0c', rest)
  | 'n' :: rest => some ('\n', rest)
  | 'r' :: rest => some ('\r', rest)
  | 't' :: rest => some ('\t', rest)
  | 'u' :: rest => takeUnicode rest
  | _ => none

/-- What stands before the closing quote, the opening one being read already. -/
def takeString : Nat → List Char → List Char → Option (String × List Char)
  | 0, _, _ => none
  | fuel + 1, done, cs =>
    match cs with
    | [] => none
    | '"' :: rest => some (String.ofList done.reverse, rest)
    | '\\' :: rest => do
      let (c, rest) ← takeEscape rest
      takeString fuel (c :: done) rest
    | c :: rest => if c.toNat < 0x20 then none else takeString fuel (c :: done) rest

def takeWord (word : String) (value : Json) (cs : List Char) : Option (Json × List Char) :=
  if word.toList.isPrefixOf cs then some (value, cs.drop word.length) else none

mutual

/-- One value; `depth` is how many more arrays and objects may open. -/
def takeValue : Nat → Nat → List Char → Option (Json × List Char)
  | 0, _, _ => none
  | fuel + 1, depth, cs =>
    match skipSpace cs with
    | [] => none
    | '"' :: rest => (takeString (rest.length + 1) [] rest).map fun (s, rest) => (.string s, rest)
    | '[' :: rest =>
      if depth = 0 then none
      else match skipSpace rest with
        | ']' :: rest => some (.array [], rest)
        | rest => takeItems fuel (depth - 1) [] rest
    | '\x7b' :: rest =>
      if depth = 0 then none
      else match skipSpace rest with
        | '\x7d' :: rest => some (.object [], rest)
        | rest => takeMembers fuel (depth - 1) [] rest
    | 'n' :: rest => takeWord "ull" .null rest
    | 't' :: rest => takeWord "rue" (.boolean true) rest
    | 'f' :: rest => takeWord "alse" (.boolean false) rest
    | rest => takeNumber rest

/-- The items of an array up to its closing bracket. -/
def takeItems : Nat → Nat → List Json → List Char → Option (Json × List Char)
  | 0, _, _, _ => none
  | fuel + 1, depth, done, cs => do
    let (item, rest) ← takeValue fuel depth cs
    match skipSpace rest with
    | ',' :: rest => takeItems fuel depth (item :: done) rest
    | ']' :: rest => some (.array (item :: done).reverse, rest)
    | _ => none

/-- The members of an object up to its closing brace. -/
def takeMembers : Nat → Nat → List (String × Json) → List Char → Option (Json × List Char)
  | 0, _, _, _ => none
  | fuel + 1, depth, done, cs =>
    match skipSpace cs with
    | '"' :: rest => do
      let (name, rest) ← takeString (rest.length + 1) [] rest
      match skipSpace rest with
      | ':' :: rest =>
        let (value, rest) ← takeValue fuel depth rest
        match skipSpace rest with
        | ',' :: rest => takeMembers fuel depth ((name, value) :: done) rest
        | '\x7d' :: rest => some (.object ((name, value) :: done).reverse, rest)
        | _ => none
      | _ => none
    | _ => none

end

/-- A text that is one JSON value and nothing else. Every step of the reader takes a character,
so the length of the text bounds their number. -/
def ofText? (s : String) : Option Json := do
  let (j, rest) ← takeValue (2 * s.length + 2) 127 s.toList
  if (skipSpace rest).isEmpty then some j else none

end EntitySearch.Json
