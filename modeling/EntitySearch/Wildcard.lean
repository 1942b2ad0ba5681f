import EntitySearch.Text.Escape
import EntitySearch.Text.Folding

/-!
Wildcard patterns. A bare star stands for any run of characters on one line, every other glyph
for one character up to case. Matching fills one row of answers for each end piece of the
pattern, so its cost is the product of the two lengths however many stars there are.
-/

namespace EntitySearch

open Text

inductive PatternPiece
  | run
  | literal (c : Char)
  deriving DecidableEq

abbrev Pattern := List PatternPiece

namespace Pattern

def piece? : Glyph → Option PatternPiece
  | .bare '*' => some .run
  | g => g.literal?.map .literal

/-- Refuses the escapes that `unescape?` refuses. -/
def ofText? (cs : List Char) : Option Pattern := (glyphs cs).mapM piece?

/-- At each end piece of a text: whether skipping characters other than a line feed leads to one
of the places that `ok` marks. -/
def reach : List Char → List Bool → List Bool
  | c :: t, ok :: oks =>
    let later := reach t oks
    (ok || (c != '\n' && later.headD false)) :: later
  | _, oks => oks

/-- At each end piece of the text, the empty one included: whether the pattern matches it. -/
def row (t : List Char) : Pattern → List Bool
  | [] => t.map (fun _ => false) ++ [true]
  | .literal c :: p => List.zipWith (fun d ok => ok && sameFold c d) t (row t p).tail ++ [false]
  | .run :: p => reach t (row t p)

/-- Whether the pattern matches the whole text. -/
def matchesText (p : Pattern) (t : List Char) : Bool := (row t p).headD false

end Pattern

end EntitySearch
