import EntitySearch.Yaml.Basic

/-!
A text laid out in lines: every character with its place. A line ends with a line feed, a carriage
return, both in this order, or one of three Unicode characters. The layout writes all of these as
a line feed, but for the line and paragraph separators, which stay themselves.
-/

namespace EntitySearch.Yaml

/-- A character and its place. -/
structure Placed where
  char : Char
  /-- How many bytes stand before it. -/
  offset : Nat
  line : Nat
  /-- How many characters stand before it on its line. -/
  column : Nat

abbrev Layout := List Placed

def breakForm (c : Char) : Char := if c == '\r' || c == '\u0085' then '\n' else c

namespace Layout

/-- The layout of characters that begin at a place. -/
def ofCharsAt (offset line column : Nat) : List Char → Layout
  | [] => []
  | '\r' :: '\n' :: cs => ⟨'\n', offset, line, column⟩ :: ofCharsAt (offset + 2) (line + 1) 0 cs
  | c :: cs =>
    if isBreak c then
      ⟨breakForm c, offset, line, column⟩ :: ofCharsAt (offset + c.utf8Size) (line + 1) 0 cs
    else ⟨c, offset, line, column⟩ :: ofCharsAt (offset + c.utf8Size) line (column + 1) cs

def ofString (s : String) : Layout := ofCharsAt 0 0 0 s.toList

/-- Whether a blank or a line break comes next, or nothing at all. -/
def atGap (l : Layout) : Bool := l.head?.all fun p => isGap p.char

/-- Whether a blank comes next. -/
def atSpace (l : Layout) : Bool := l.head?.any fun p => isSpace p.char

/-- Whether one of the characters comes next. -/
def atOneOf (cs : List Char) (l : Layout) : Bool := l.head?.any fun p => cs.contains p.char

/-- Three such characters at the start of a line, and a gap after them, mark a document. -/
def atMarkOf (c : Char) (l : Layout) : Bool :=
  l.head?.any (·.column == 0) && (l.take 3).map Placed.char == [c, c, c] && atGap (l.drop 3)

def atDocumentMark (l : Layout) : Bool := atMarkOf '-' l || atMarkOf '.' l

end Layout

end EntitySearch.Yaml
