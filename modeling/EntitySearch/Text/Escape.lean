import EntitySearch.Text.Blank

/-!
Backslash escapes. A text is read once into glyphs, each a bare character, a character written
after a backslash, or a backslash that ends the text; cutting at marks, removing escapes and
reading wildcards all work on the glyphs, so they agree on which characters are escaped.
Writing the glyphs back gives the text again.
-/

namespace EntitySearch.Text

inductive Glyph
  | bare (c : Char)
  | escaped (c : Char)
  /-- A backslash with nothing after it. -/
  | dangling
  deriving DecidableEq

def Glyph.written : Glyph → List Char
  | .bare c => [c]
  | .escaped c => ['\\', c]
  | .dangling => ['\\']

def glyphs : List Char → List Glyph
  | [] => []
  | ['\\'] => [.dangling]
  | '\\' :: c :: cs => .escaped c :: glyphs cs
  | c :: cs => .bare c :: glyphs cs

def writeGlyphs (gs : List Glyph) : List Char := gs.flatMap Glyph.written

theorem writeGlyphs_glyphs (cs : List Char) : writeGlyphs (glyphs cs) = cs := by
  fun_induction glyphs cs <;> simp_all [writeGlyphs, Glyph.written]

/-- The characters that a backslash may stand before. -/
def isEscapable (c : Char) : Bool := ['*', '\\', ':', '-', '.', ','].contains c

/-- The character a glyph stands for, if its escape is a known one. -/
def Glyph.literal? : Glyph → Option Char
  | .bare c => some c
  | .escaped c => if isEscapable c then some c else none
  | .dangling => none

/-- Removes the escapes; refuses an unknown escape and a backslash at the end. -/
def unescape? (cs : List Char) : Option (List Char) := (glyphs cs).mapM Glyph.literal?

/-- Cuts at the leftmost place where all characters of `mark` stand bare. -/
def cutGlyphs? (mark : List Char) : List Glyph → Option (List Glyph × List Glyph)
  | [] => none
  | g :: gs =>
    if (mark.map Glyph.bare).isPrefixOf (g :: gs) then some ([], (g :: gs).drop mark.length)
    else (cutGlyphs? mark gs).map fun (before, after) => (g :: before, after)

/-- The parts before and after the leftmost bare `mark`, escapes kept. -/
def cutBare? (mark cs : List Char) : Option (List Char × List Char) :=
  (cutGlyphs? mark (glyphs cs)).map fun (before, after) => (writeGlyphs before, writeGlyphs after)

/-- The parts between the bare occurrences of `mark`, escapes kept. -/
def splitBare (mark : Char) (cs : List Char) : List (List Char) :=
  ((glyphs cs).splitOn (.bare mark)).map writeGlyphs

end EntitySearch.Text
