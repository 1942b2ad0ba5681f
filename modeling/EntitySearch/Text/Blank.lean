/-!
White space and what is done with it: trimming a text and cutting it into words. The class is
the Unicode property `White_Space`, so a no-break space is blank and a zero width space is not.
Also the two ways to cut a text at a mark.
-/

namespace EntitySearch.Text

/-- The Unicode property `White_Space`. -/
def isBlank (c : Char) : Bool :=
  let n := c.toNat
  (9 ≤ n && n ≤ 13) || n == 0x20 || n == 0x85 || n == 0xA0 || n == 0x1680 ||
    (0x2000 ≤ n && n ≤ 0x200A) || n == 0x2028 || n == 0x2029 || n == 0x202F || n == 0x205F ||
    n == 0x3000

def trimStart (cs : List Char) : List Char := cs.dropWhile isBlank

def trimEnd (cs : List Char) : List Char := (cs.reverse.dropWhile isBlank).reverse

def trim (cs : List Char) : List Char := trimEnd (trimStart cs)

/-- The longest blank-free runs of a text, in order. -/
def words (cs : List Char) : List (List Char) := (cs.splitOnP isBlank).filter (!·.isEmpty)

/-- ASCII letters in lower case, all other characters as they are. -/
def lowerAscii (cs : List Char) : List Char := cs.map Char.toLower

/-- Cuts at the first character that `p` accepts; that character is in neither part. -/
def cutAt? (p : Char → Bool) : List Char → Option (List Char × List Char)
  | [] => none
  | c :: cs =>
    if p c then some ([], cs) else (cutAt? p cs).map fun (before, after) => (c :: before, after)

end EntitySearch.Text
