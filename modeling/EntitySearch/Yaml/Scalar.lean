import EntitySearch.Text.Hex
import EntitySearch.Yaml.Layout

/-!
Scalars, which may go on over several lines. A single line break within a scalar is read as a
space; of several in a row, the first is left out. Blanks around line breaks do not count.
-/

namespace EntitySearch.Yaml

open Text

/-- Blanks and line breaks within a scalar. -/
structure Gap where
  /-- The blanks, as long as there is no line break. -/
  blanks : List Char := []
  breaks : List Char := []

namespace Gap

def isEmpty (g : Gap) : Bool := g.blanks.isEmpty && g.breaks.isEmpty

def hasBreak (g : Gap) : Bool := !g.breaks.isEmpty

/-- The gap with one more blank or line break at its end. -/
def push (g : Gap) (c : Char) : Gap :=
  if isBreak c then ⟨[], g.breaks ++ [c]⟩
  else if g.hasBreak then g
  else { g with blanks := g.blanks ++ [c] }

/-- What the gap counts for in the scalar. -/
def folded (g : Gap) : List Char :=
  match g.breaks with
  | [] => g.blanks
  | ['\n'] => [' ']
  | '\n' :: more => more
  | breaks => breaks

end Gap

/-- A plain scalar and what follows it. -/
structure PlainScalar where
  text : List Char
  /-- Whether a line break comes between the scalar and what follows. -/
  endsLine : Bool
  rest : Layout

/-- Whether a plain scalar ends before what comes next: at a colon with a gap after it and, in a
flow collection, at any of the flow signs. -/
def endsPlain (inFlow : Bool) (l : Layout) : Bool :=
  match l with
  | [] => true
  | p :: ps => (p.char == ':' && Layout.atGap ps) || (inFlow && isFlowSign p.char)

/-- The rest of a plain scalar, after the reversed text `done` and a gap. In a block its further
lines stand at column `least` or past it. No tab may stand before that column, and no colon
before a sign in a flow collection. -/
def takePlain (inFlow : Bool) (least : Nat) (done : List Char) (gap : Gap) :
    Layout → Option PlainScalar
  | [] => some ⟨done.reverse, gap.hasBreak, []⟩
  | p :: ps =>
    if isGap p.char then
      if p.char == '\t' && gap.hasBreak && p.column < least then none
      else takePlain inFlow least done (gap.push p.char) ps
    else
      let leaves :=
        (!inFlow && p.column < least) || Layout.atDocumentMark (p :: ps) || p.char == '#'
      if !gap.isEmpty && leaves then some ⟨done.reverse, gap.hasBreak, p :: ps⟩
      else if inFlow && p.char == ':' && Layout.atOneOf [',', '?', '[', ']', '\x7b', '\x7d'] ps then
        none
      else if endsPlain inFlow (p :: ps) then some ⟨done.reverse, gap.hasBreak, p :: ps⟩
      else takePlain inFlow least (p.char :: gap.folded.reverse ++ done) {} ps

/-- The rest of a single-quoted scalar, after the reversed text `done` and a gap, and what follows
its closing quote. A quote within is written twice. -/
def takeSingleQuoted (done : List Char) (gap : Gap) : Layout → Option (List Char × Layout)
  | [] => none
  | p :: ps =>
    if isGap p.char then takeSingleQuoted done (gap.push p.char) ps
    else if Layout.atDocumentMark (p :: ps) then none
    else
      let done := gap.folded.reverse ++ done
      if p.char == '\'' then
        match ps with
        | q :: qs =>
          if q.char == '\'' then takeSingleQuoted ('\'' :: done) {} qs
          else some (done.reverse, q :: qs)
        | [] => some (done.reverse, [])
      else takeSingleQuoted (p.char :: done) {} ps

/-- The character of an escape that is one letter long. -/
def escapeOf? (c : Char) : Option Char :=
  [('0', '\x00'), ('a', '\x07'), ('b', '\x08'), ('t', '\t'), ('\t', '\t'), ('n', '\n'),
    ('v', '\x0b'), ('f', '\x0c'), ('r', '\r'), ('e', '\x1b'), (' ', ' '), ('"', '"'), ('/', '/'),
    ('\\', '\\'), ('N', '\u0085'), ('_', '\u00a0'), ('L', '\u2028'), ('P', '\u2029')].lookup c

/-- How many hexadecimal digits follow an escape letter. -/
def escapeWidth (c : Char) : Nat := ([('x', 2), ('u', 4), ('U', 8)].lookup c).getD 0

/-- The character of an escape, given its letter and the digits after it. -/
def unescape? (letter : Char) (digits : List Char) : Option Char :=
  match escapeWidth letter with
  | 0 => escapeOf? letter
  | width => do
    let n ← if digits.length = width then ofHexDigits? digits else none
    if n.isValidChar then some (Char.ofNat n) else none

/-- The gap in a double-quoted scalar. -/
inductive QuotedGap
  | folded (gap : Gap)
  /-- After an escaped line break, which is left out; those after it count. -/
  | kept (breaks : List Char)

def QuotedGap.push : QuotedGap → Char → QuotedGap
  | .folded gap, c => .folded (gap.push c)
  | .kept breaks, c => .kept (if isBreak c then breaks ++ [c] else breaks)

def QuotedGap.text : QuotedGap → List Char
  | .folded gap => gap.folded
  | .kept breaks => breaks

/-- The rest of a double-quoted scalar, after the reversed text `done` and a gap, and what follows
its closing quote. -/
def takeDoubleQuoted (done : List Char) (gap : QuotedGap) : Layout → Option (List Char × Layout)
  | [] => none
  | p :: ps =>
    if isGap p.char then takeDoubleQuoted done (gap.push p.char) ps
    else if Layout.atDocumentMark (p :: ps) then none
    else
      let done := gap.text.reverse ++ done
      if p.char == '"' then some (done.reverse, ps)
      else if p.char == '\\' then
        match ps with
        | [] => none
        | q :: qs =>
          if isBreak q.char then takeDoubleQuoted done (.kept []) qs
          else
            let width := escapeWidth q.char
            match unescape? q.char ((qs.take width).map Placed.char) with
            | none => none
            | some c => takeDoubleQuoted (c :: done) (.folded {}) (qs.drop width)
      else takeDoubleQuoted (p.char :: done) (.folded {}) ps
termination_by l => l.length
decreasing_by all_goals grind

/-- The inside of a quoted scalar and what follows, after the opening quote. -/
def takeQuoted (quote : Char) (l : Layout) : Option (List Char × Layout) :=
  if quote == '\'' then takeSingleQuoted [] {} l else takeDoubleQuoted [] (.folded {}) l

end EntitySearch.Yaml
