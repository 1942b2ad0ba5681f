import EntitySearch.Text.Lowercase.Table

/-!
Full lower-casing of a text. Every character has its own lower-case form, but for two: `İ` has
two characters (`i` and a combining dot), and `Σ` becomes `ς` at the end of a word and `σ`
elsewhere.
-/

namespace EntitySearch.Text

def isCased (c : Char) : Bool := inRanges c.toNat casedRanges

def isCaseIgnorable (c : Char) : Bool := inRanges c.toNat caseIgnorableRanges

def lowerForm (c : Char) : List Char :=
  if c = 'İ' then ['i', '\u0307'] else [Char.ofNat (mapRuns c.toNat lowercaseRuns)]

/-- Whether the first character that is not ignorable is a cased one. -/
def beginsCased (cs : List Char) : Bool :=
  match cs.dropWhile isCaseIgnorable with
  | [] => false
  | c :: _ => isCased c

/-- The lower-case form of what follows a text; `afterCased` says whether the last character of
that text that is not ignorable is a cased one. -/
def lowercaseAfter (afterCased : Bool) : List Char → List Char
  | [] => []
  | c :: cs =>
    let form := if c = 'Σ' then [if afterCased && !beginsCased cs then 'ς' else 'σ']
      else lowerForm c
    form ++ lowercaseAfter (if isCaseIgnorable c then afterCased else isCased c) cs

def lowercase (s : String) : String := String.ofList (lowercaseAfter false s.toList)

end EntitySearch.Text
