/-!
YAML values, and the classes of characters that YAML tells apart. A scalar remembers whether it
was quoted, because only a plain one can be a number or null.
-/

namespace EntitySearch

inductive Yaml
  /-- A scalar without quotes; the empty one stands where nothing is written. -/
  | plain (text : String)
  | quoted (text : String)
  | sequence (items : List Yaml)
  | mapping (entries : List (Yaml × Yaml))

namespace Yaml

/-- What stands where nothing is written. -/
def nothing : Yaml := .plain ""

/-- The text of a scalar. -/
def scalar? : Yaml → Option String
  | .plain s | .quoted s => some s
  | .sequence _ | .mapping _ => none

def isNull : Yaml → Bool
  | .plain s => ["", "~", "null", "Null", "NULL"].contains s
  | _ => false

def isSpace (c : Char) : Bool := c == ' ' || c == '\t'

/-- The characters that end a line. -/
def isBreak (c : Char) : Bool := ['\n', '\r', '\u0085', '\u2028', '\u2029'].contains c

def isGap (c : Char) : Bool := isSpace c || isBreak c

/-- The characters that a text may hold; left out are control characters and noncharacters of
the basic plane. -/
def isAllowed (c : Char) : Bool :=
  let n := c.toNat
  n == 9 || n == 10 || n == 13 || (0x20 ≤ n && n ≤ 0x7E) || n == 0x85 ||
    (0xA0 ≤ n && n ≤ 0xFFFD) || 0x10000 ≤ n

/-- The signs that structure a flow collection. -/
def isFlowSign (c : Char) : Bool := [',', '[', ']', '\x7b', '\x7d'].contains c

/-- The signs that no plain scalar begins with. -/
def isIndicator (c : Char) : Bool :=
  isFlowSign c || ['#', '&', '*', '!', '|', '>', '\'', '"', '%', '@', '\x60'].contains c

end Yaml

end EntitySearch
