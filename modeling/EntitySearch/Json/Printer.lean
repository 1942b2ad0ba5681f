import EntitySearch.Json.Basic
import EntitySearch.Text.Hex

/-!
JSON text on one line. Control characters, quotes and backslashes are escaped, all other
characters stand for themselves. A finite number is written with all its decimal digits, and
what is no finite number as null.
-/

namespace EntitySearch.Json

open Number Text

def escapeChar (c : Char) : List Char :=
  if c = '"' then ['\\', '"']
  else if c = '\\' then ['\\', '\\']
  else if c.toNat < 0x20 then '\\' :: 'u' :: hexDigits 4 c.toNat
  else [c]

def quote (s : String) : String := String.ofList ('"' :: s.toList.flatMap escapeChar ++ ['"'])

/-- All decimal digits of a finite number: with `k` binary places it has `k` decimal places. -/
def decimalText (x : Binary64) : String :=
  let places := (-x.exponent).toNat
  let ds := padded (places + 1) (x.numerator * Nat.pow 5 places)
  let fraction := ds.drop (ds.length - places)
  let kept := (fraction.reverse.dropWhile (· == '0')).reverse
  String.ofList ((if x.negative then ['-'] else []) ++ ds.take (ds.length - places) ++
    '.' :: (if kept.isEmpty then ['0'] else kept))

mutual

def text : Json → String
  | .null => "null"
  | .boolean b => if b then "true" else "false"
  | .integer i => toString i
  | .float x => if x.isFinite then decimalText x else "null"
  | .string s => quote s
  | .array items => "[" ++ ",".intercalate (itemTexts items) ++ "]"
  | .object members => "\x7b" ++ ",".intercalate (memberTexts members) ++ "\x7d"

def itemTexts : List Json → List String
  | [] => []
  | j :: js => text j :: itemTexts js

def memberTexts : List (String × Json) → List String
  | [] => []
  | (name, j) :: ms => (quote name ++ ":" ++ text j) :: memberTexts ms

end

end EntitySearch.Json
