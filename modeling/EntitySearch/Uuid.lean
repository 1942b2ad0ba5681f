import EntitySearch.Text.Hex

/-!
Identifiers of entities: 128 bits, written as 32 hexadecimal digits in groups of 8, 4, 4, 4
and 12.
-/

namespace EntitySearch

structure Uuid where
  bits : BitVec 128
  deriving DecidableEq

namespace Uuid

open Text

/-- Lower-case digits with hyphens between the groups. -/
def text (u : Uuid) : String :=
  let ds := hexDigits 32 u.bits.toNat
  String.ofList (ds.take 8 ++ '-' :: (ds.drop 8).take 4 ++ '-' :: (ds.drop 12).take 4 ++
    '-' :: (ds.drop 16).take 4 ++ '-' :: ds.drop 20)

def ofDigits? (cs : List Char) : Option Uuid :=
  if cs.length = 32 then (ofHexDigits? cs).map fun n => ⟨BitVec.ofNat 128 n⟩ else none

/-- The digits of a text of 36 characters that has its hyphens at the right places. -/
def ungroup? (cs : List Char) : Option (List Char) :=
  if cs.length = 36 ∧ cs[8]? = some '-' ∧ cs[13]? = some '-' ∧ cs[18]? = some '-' ∧
      cs[23]? = some '-' then
    some (cs.take 8 ++ (cs.drop 9).take 4 ++ (cs.drop 14).take 4 ++ (cs.drop 19).take 4 ++
      cs.drop 24)
  else none

/-- The mark of a resource name, in any letter case. -/
def hasResourceMark (cs : List Char) : Bool :=
  (cs.take 9).map Char.toLower == "urn:uuid:".toList

/-- Strips the braces or the resource mark that the grouped form may stand in. -/
def unwrap (cs : List Char) : List Char :=
  if cs.length = 38 ∧ cs.head? = some '\x7b' ∧ cs.getLast? = some '\x7d' then (cs.drop 1).take 36
  else if cs.length = 45 ∧ hasResourceMark cs then cs.drop 9
  else cs

/-- Reads the grouped form or 32 bare digits, in any letter case. -/
def ofText? (s : String) : Option Uuid :=
  let cs := s.toList
  if cs.length = 32 then ofDigits? cs else (ungroup? (unwrap cs)).bind ofDigits?

end Uuid

end EntitySearch
