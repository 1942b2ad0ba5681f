import EntitySearch.Number.Numeral
import EntitySearch.Text.Blank
import EntitySearch.Time.Moment

/-!
Moments as text: date, time of day and offset from universal time, as in
`2015-03-01T01:02:03.5+01:00`. Reading allows blanks between the parts and numbers without their
leading zeros; writing uses `Z` and three, six or nine places, the fewest that lose nothing, or
none.
-/

namespace EntitySearch.Timestamp

open Text Number

/-- A number of one to `width` digits, with blanks before it. -/
def takeNumber (width : Nat) (cs : List Char) : Option (Nat × List Char) :=
  let cs := trimStart cs
  let ds := (cs.take width).takeWhile Char.isDigit
  if ds.isEmpty then none else some (ofDigits ds, cs.drop ds.length)

/-- A year of up to four digits, or of any length after a sign. -/
def takeYear (cs : List Char) : Option (Int × List Char) :=
  let cs := trimStart cs
  let signed (rest : List Char) : Option (Nat × List Char) :=
    let ds := rest.takeWhile Char.isDigit
    if ds.isEmpty then none else some (ofDigits ds, rest.drop ds.length)
  match cs with
  | '-' :: rest => (signed rest).map fun (n, rest) => (-(n : Int), rest)
  | '+' :: rest => (signed rest).map fun (n, rest) => ((n : Int), rest)
  | cs => (takeNumber 4 cs).map fun (n, rest) => ((n : Int), rest)

/-- What follows a mark, with blanks before the mark. -/
def afterMark (mark : Char) (cs : List Char) : Option (List Char) :=
  match trimStart cs with
  | [] => none
  | c :: rest => if c = mark then some rest else none

/-- A point and digits, of which the first nine count, as nanoseconds; zero without a point. -/
def takeFraction : List Char → Option (Nat × List Char)
  | '.' :: cs =>
    let ds := cs.takeWhile Char.isDigit
    let kept := ds.take 9
    if ds.isEmpty then none
    else some (ofDigits kept * Nat.pow 10 (9 - kept.length), cs.drop ds.length)
  | cs => some (0, cs)

/-- Two digits. -/
def takePair : List Char → Option (Nat × List Char)
  | a :: b :: rest => if a.isDigit && b.isDigit then some (ofDigits [a, b], rest) else none
  | _ => none

/-- Hours and minutes after the sign of an offset, in seconds. -/
def takeSpan (cs : List Char) : Option (Nat × List Char) := do
  let (hours, rest) ← takePair cs
  let (minutes, rest) ← takePair (rest.dropWhile fun c => c == ':' || isBlank c)
  if 60 ≤ minutes ∨ 24 ≤ hours then none
  else some (3600 * hours + 60 * minutes, rest)

/-- `Z`, `UTC` or a signed span: the offset from universal time in seconds. -/
def takeOffset (cs : List Char) : Option (Int × List Char) :=
  if lowerAscii (cs.take 3) = ['u', 't', 'c'] then some (0, cs.drop 3)
  else match cs with
    | 'Z' :: rest | 'z' :: rest => some (0, rest)
    | '+' :: rest => (takeSpan rest).map fun (n, rest) => ((n : Int), rest)
    | '-' :: rest | '−' :: rest => (takeSpan rest).map fun (n, rest) => (-(n : Int), rest)
    | _ => none

/-- The moment at a date, a second of the day less an offset, and a fraction; a leap second is
the second 60. -/
def assemble (d : Date) (hour minute second nanos : Nat) (offset : Int) : Option Moment :=
  if h : hour ≤ 23 ∧ minute ≤ 59 ∧ second ≤ 60 ∧ nanos < 1000000000 then
    let leap := if second = 60 then 1000000000 else 0
    let t : Moment :=
      ⟨86400 * d.dayNumber + 3600 * hour + 60 * minute + min second 59 - offset, leap + nanos,
        by simp only [leap]; split <;> omega⟩
    (Date.ofDayNumber? (t.second / 86400)).map fun _ => t
  else none

def ofText? (s : String) : Option Moment := do
  let (year, rest) ← takeYear s.toList
  let (month, rest) ← takeNumber 2 (← afterMark '-' rest)
  let (day, rest) ← takeNumber 2 (← afterMark '-' rest)
  let rest ← match rest with
    | 'T' :: rest | 't' :: rest | ' ' :: rest => some rest
    | _ => none
  let (hour, rest) ← takeNumber 2 rest
  let (minute, rest) ← takeNumber 2 (← afterMark ':' rest)
  let (second, rest) ← takeNumber 2 (← afterMark ':' rest)
  let (nanos, rest) ← takeFraction rest
  let (offset, rest) ← takeOffset (trimStart rest)
  let d ← Date.ofParts? year month day
  if (trimStart rest).isEmpty then assemble d hour minute second nanos offset else none

/-- Four digits for the years 0 to 9999, else a sign and at least four. -/
def yearText (year : Int) : List Char :=
  if 0 ≤ year ∧ year ≤ 9999 then padded 4 year.toNat
  else (if year < 0 then '-' else '+') :: padded 4 year.natAbs

def fractionText (nanos : Nat) : List Char :=
  if nanos = 0 then []
  else if nanos % 1000000 = 0 then '.' :: padded 3 (nanos / 1000000)
  else if nanos % 1000 = 0 then '.' :: padded 6 (nanos / 1000)
  else '.' :: padded 9 nanos

def text (t : Moment) : String :=
  let d := t.date
  let s := t.secondOfDay
  let leap := t.nano / 1000000000
  String.ofList (yearText d.year ++ '-' :: padded 2 d.month ++ '-' :: padded 2 d.day ++
    'T' :: padded 2 (s / 3600) ++ ':' :: padded 2 (s / 60 % 60) ++
    ':' :: padded 2 (s % 60 + leap) ++ fractionText (t.nano % 1000000000) ++ ['Z'])

end EntitySearch.Timestamp
