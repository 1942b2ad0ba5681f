import EntitySearch.Yaml.Scalar

/-!
Tokens of a YAML text. Indentation becomes tokens of its own, which begin and end block
collections. That a node is a key shows only at the colon behind it, so every place where a key
may begin is remembered until then; the colon puts the key token there. A key without a mark
stands on one line and within 1024 bytes. Anchors, tags, block scalars and directives have no
tokens here.
-/

namespace EntitySearch.Yaml

inductive Token
  | documentStart
  | documentEnd
  | blockSequence
  | blockMapping
  | blockEnd
  | flowSequence
  | flowSequenceEnd
  | flowMapping
  | flowMappingEnd
  /-- The dash before an item. -/
  | item
  | comma
  | key
  | value
  | plain (text : String)
  | quoted (text : String)
  deriving DecidableEq

/-- A place where a key may begin. -/
structure KeyPlace where
  /-- How many tokens stand before it. -/
  count : Nat
  offset : Nat
  line : Nat
  column : Nat
  /-- Whether nothing but a key may stand there. -/
  required : Bool

/-- What has been read of a text. -/
structure Scan where
  /-- The tokens so far, the last first. -/
  tokens : List Token := []
  count : Nat := 0
  /-- The columns of the open block collections, the innermost first. -/
  indents : List Nat := []
  /-- Whether a key may begin here. -/
  keyAllowed : Bool := true
  /-- Where the last node of the innermost collection began, while it may be a key. -/
  place : Option KeyPlace := none
  /-- The same of the collections around the open flow collections, the innermost first. -/
  outer : List (Option KeyPlace) := []

def maxKeyBytes : Nat := 1024

/-- Whether a colon at a line and offset is too far away from the place of the key. -/
def KeyPlace.isPast (k : KeyPlace) (line offset : Nat) : Bool :=
  k.line < line || k.offset + maxKeyBytes < offset

/-- Forgets the place of a key that is too far away; a required key must not be. -/
def keepPlace? (line offset : Nat) : Option KeyPlace → Option (Option KeyPlace)
  | none => some none
  | some k =>
    if k.isPast line offset then if k.required then none else some none
    else some (some k)

namespace Scan

def inFlow (s : Scan) : Bool := !s.outer.isEmpty

def add (s : Scan) (t : Token) : Scan := { s with tokens := t :: s.tokens, count := s.count + 1 }

/-- Puts a token before those after the first `count`. -/
def addAt (s : Scan) (count : Nat) (t : Token) : Scan :=
  { s with tokens := s.tokens.insertIdx (s.count - count) t, count := s.count + 1 }

def keepPlaces? (s : Scan) (line offset : Nat) : Option Scan := do
  let place ← keepPlace? line offset s.place
  let outer ← s.outer.mapM (keepPlace? line offset)
  some { s with place, outer }

/-- Forgets the place of the last node, which is no key. -/
def dropPlace? (s : Scan) : Option Scan :=
  match s.place with
  | some k => if k.required then none else some { s with place := none }
  | none => some s

/-- Remembers that a key may begin here. A node at the column of the block must be one. -/
def markPlace? (s : Scan) (p : Placed) : Option Scan :=
  if s.keyAllowed then do
    let required := !s.inFlow && s.indents.head? == some p.column
    some { ← s.dropPlace? with place := some ⟨s.count, p.offset, p.line, p.column, required⟩ }
  else some s

/-- Ends the block collections that stand past a column; within flow collections none ends. -/
def unindent (s : Scan) (column : Nat) : Scan :=
  if s.inFlow then s
  else
    let ended := s.indents.takeWhile (column < ·)
    let s := { s with indents := s.indents.drop ended.length }
    ended.foldl (fun s _ => s.add .blockEnd) s

def unindentAll (s : Scan) : Scan :=
  if s.inFlow then s
  else s.indents.foldl (fun s _ => s.add .blockEnd) { s with indents := [] }

/-- Begins a block collection before the tokens after the first `count`, unless its column does
not stand past the innermost one. -/
def indentAt (s : Scan) (column count : Nat) (t : Token) : Scan :=
  if !s.inFlow && s.indents.head?.all (· < column) then
    { s.addAt count t with indents := column :: s.indents }
  else s

/-- In a block, a dash or a mark of a key or a value stands only where a key may begin. -/
def beginBlock? (s : Scan) (column : Nat) (t : Token) : Option Scan :=
  if s.inFlow then some s
  else if s.keyAllowed then some (s.indentAt column s.count t)
  else none

def documentMark? (s : Scan) (t : Token) : Option Scan := do
  let s ← s.unindentAll.dropPlace?
  some ({ s with keyAllowed := false }.add t)

def openFlow? (s : Scan) (p : Placed) (t : Token) : Option Scan := do
  let s ← s.markPlace? p
  some ({ s with outer := s.place :: s.outer, place := none, keyAllowed := true }.add t)

def closeFlow? (s : Scan) (t : Token) : Option Scan := do
  let s ← s.dropPlace?
  let s := match s.outer with
    | place :: outer => { s with place, outer }
    | [] => s
  some ({ s with keyAllowed := false }.add t)

def comma? (s : Scan) : Option Scan := do
  some ({ ← s.dropPlace? with keyAllowed := true }.add .comma)

def item? (s : Scan) (column : Nat) : Option Scan := do
  let s ← (← s.beginBlock? column .blockSequence).dropPlace?
  some ({ s with keyAllowed := true }.add .item)

def key? (s : Scan) (column : Nat) : Option Scan := do
  let s ← (← s.beginBlock? column .blockMapping).dropPlace?
  some ({ s with keyAllowed := !s.inFlow }.add .key)

/-- A colon. The node before it becomes a key, if it may be one. -/
def value? (s : Scan) (column : Nat) : Option Scan := do
  match s.place with
  | some k =>
    let s := (s.addAt k.count .key).indentAt k.column k.count .blockMapping
    some ({ s with place := none, keyAllowed := false }.add .value)
  | none =>
    let s ← s.beginBlock? column .blockMapping
    some ({ s with keyAllowed := !s.inFlow }.add .value)

def plain? (s : Scan) (p : Placed) (l : Layout) : Option (Scan × Layout) := do
  let s ← s.markPlace? p
  let least := (s.indents.head?.map (· + 1)).getD 0
  let scalar ← takePlain s.inFlow least [] {} l
  some ({ s with keyAllowed := scalar.endsLine }.add (.plain (String.ofList scalar.text)),
    scalar.rest)

def quoted? (s : Scan) (p : Placed) (l : Layout) : Option (Scan × Layout) := do
  let s ← s.markPlace? p
  let (text, rest) ← takeQuoted p.char l
  some ({ s with keyAllowed := false }.add (.quoted (String.ofList text)), rest)

/-- Skips blanks, line breaks and comments. A new line of a block may begin with a key, and a tab
must not stand before one. A byte order mark may begin a line. -/
def skip (s : Scan) (inComment : Bool) : Layout → Scan × Layout
  | [] => (s, [])
  | p :: ps =>
    if isBreak p.char then skip { s with keyAllowed := s.keyAllowed || !s.inFlow } false ps
    else if inComment || p.char == '#' then skip s true ps
    else if p.char == ' ' || (p.char == '\t' && (s.inFlow || !s.keyAllowed)) ||
        (p.char == '\ufeff' && p.column == 0) then
      skip s false ps
    else (s, p :: ps)

/-- Whether a plain scalar begins here. -/
def beginsPlain (s : Scan) (c : Char) (after : Layout) : Bool :=
  if c == '-' then !Layout.atSpace after
  else if c == '?' || c == ':' then !s.inFlow && !Layout.atGap after
  else !isIndicator c && !isGap c

/-- One token, which begins with the character `p`. -/
def next? (s : Scan) (p : Placed) (ps : Layout) : Option (Scan × Layout) := do
  let s := (← s.keepPlaces? p.line p.offset).unindent p.column
  let c := p.char
  if Layout.atMarkOf '-' (p :: ps) then some (← s.documentMark? .documentStart, ps.drop 2)
  else if Layout.atMarkOf '.' (p :: ps) then some (← s.documentMark? .documentEnd, ps.drop 2)
  else if c == '[' then some (← s.openFlow? p .flowSequence, ps)
  else if c == '\x7b' then some (← s.openFlow? p .flowMapping, ps)
  else if c == ']' then some (← s.closeFlow? .flowSequenceEnd, ps)
  else if c == '\x7d' then some (← s.closeFlow? .flowMappingEnd, ps)
  else if c == ',' then some (← s.comma?, ps)
  else if c == '-' && Layout.atGap ps then some (← s.item? p.column, ps)
  else if c == '?' && (s.inFlow || Layout.atGap ps) then some (← s.key? p.column, ps)
  else if c == ':' && (s.inFlow || Layout.atGap ps) then some (← s.value? p.column, ps)
  else if c == '\'' || c == '"' then s.quoted? p ps
  else if s.beginsPlain c ps then s.plain? p (p :: ps)
  else none

/-- The tokens of the rest of a text. -/
def finish? : Nat → Scan → Layout → Option (List Token)
  | 0, _, _ => none
  | fuel + 1, s, l =>
    match s.skip false l with
    | (s, []) => do some (← s.unindentAll.dropPlace?).tokens.reverse
    | (s, p :: ps) => do
      let (s, rest) ← s.next? p ps
      finish? fuel s rest

end Scan

/-- The tokens of a text, if it has only allowed characters and keys where they must be. -/
def tokens? (s : String) : Option (List Token) :=
  if s.toList.all isAllowed then
    let l := Layout.ofString s
    Scan.finish? (l.length + 1) {} l
  else none

end EntitySearch.Yaml
