import EntitySearch.Proofs.Merging
import EntitySearch.Proofs.OrderText
import EntitySearch.Proofs.Trimming
import EntitySearch.Settings

/-!
Orders and their texts. An order is read back from its text if the names of its keys can stand in
one (`SortOrder.read_text`), as those of the keys of any order that was read from a text can
(`SortOrder.fits_of_read`).
-/

namespace EntitySearch

open Outcome Text

/-- A name that stands in an order text as it is: no mark cuts it, and trimming leaves it alone. -/
structure IsOrderName (name : List Char) : Prop where
  not_comma : ',' ∉ name
  not_colon : ':' ∉ name
  trimmed : trim name = name

instance (name : List Char) : Decidable (IsOrderName name) :=
  decidable_of_iff (',' ∉ name ∧ ':' ∉ name ∧ trim name = name)
    ⟨fun ⟨hcomma, hcolon, htrim⟩ => ⟨hcomma, hcolon, htrim⟩,
      fun h => ⟨h.not_comma, h.not_colon, h.trimmed⟩⟩

/-- All keys of the type have names that can stand in an order text. -/
def HasOrderNames (K : Type) [Key K] : Prop := ∀ k : K, IsOrderName (Key.name k).toList

instance (K : Type) [Key K] : Decidable (HasOrderNames K) :=
  decidable_of_iff (∀ k ∈ Key.all (K := K), IsOrderName (Key.name k).toList)
    ⟨fun h k => h k (Key.mem_all k), fun h k _ => h k⟩

theorem hasOrderNames_sorts :
    HasOrderNames UserSort ∧ HasOrderNames TagSort ∧ HasOrderNames PostSort := by
  decide +kernel

theorem hasOrderNames_fields :
    HasOrderNames UserField ∧ HasOrderNames TagField ∧ HasOrderNames PostField := by
  decide +kernel

namespace SortOrder

variable {K : Type} [Key K]

/-- A pair as it stands in an order text, the direction under one of its names. -/
def Spells (e : K × Direction) (part : List Char) : Prop :=
  ∃ word, e.2.IsNamed word ∧ (Key.name e.1).toList ++ ':' :: word = part

theorem not_mark_of_isNamed {d : Direction} {word : List Char} {mark : Char}
    (hmark : mark = ',' ∨ mark = ':') (h : d.IsNamed word) : mark ∉ word := by
  intro hmem
  have hname {name : List Char} (hcomma : ',' ∉ name) (hcolon : ':' ∉ name) :
      lowerAscii word ≠ name := by
    rintro rfl
    rcases hmark with rfl | rfl
    · exact hcomma (mem_lowerAscii (by decide) hmem)
    · exact hcolon (mem_lowerAscii (by decide) hmem)
  rcases h with h | h <;> cases d <;> exact hname (by decide) (by decide) h

section

variable {e : K × Direction} {part : List Char}

theorem Spells.isPart (h : Spells e part) (hname : IsOrderName (Key.name e.1).toList) :
    ',' ∉ part ∧ trim part = part ∧ part ≠ [] := by
  obtain ⟨word, hword, rfl⟩ := h
  have hblank : (':' :: word).any isBlank = false := by
    rw [List.any_cons, (Query.not_blank_and_not_escape_of_isNamed hword).1]
    decide
  refine ⟨?_, trim_append_of_not_blank hname.trimmed (List.cons_ne_nil _ _) hblank, by simp⟩
  simp [hname.not_comma, not_mark_of_isNamed (.inl rfl) hword]

theorem Spells.readPair_eq (h : Spells e part) (hname : IsOrderName (Key.name e.1).toList) :
    readPair part = .ok e := by
  obtain ⟨word, hword, rfl⟩ := h
  have hkey : Key.read (String.ofList (trim (Key.name e.1).toList)) = .ok e.1 := by
    rw [hname.trimmed, String.ofList_toList, Key.read_eq_ok_iff]
  rw [readPair_of_append hname.not_colon, Direction.read_of_isNamed hword, hkey]
  rfl

/-- What is read as a pair has the name of its key in it, up to blanks around it. -/
theorem fits_of_readPair (h : readPair part = .ok e) (hcomma : ',' ∉ part) :
    IsOrderName (Key.name e.1).toList := by
  have htrim {key : List Char} (hcomma : ',' ∉ key) (hcolon : ':' ∉ key)
      (hkey : Key.name e.1 = String.ofList (trim key)) : IsOrderName (Key.name e.1).toList := by
    rw [hkey, String.toList_ofList]
    exact ⟨mt mem_of_mem_trim hcomma, mt mem_of_mem_trim hcolon, trim_trim key⟩
  by_cases hcolon : ':' ∈ part
  · obtain ⟨key, direction, rfl, hkey⟩ := List.eq_append_cons_of_mem hcolon
    rw [readPair_of_append hkey] at h
    obtain ⟨d, -, h⟩ := bind_eq_ok_iff.1 h
    obtain ⟨k, hk, rfl⟩ := map_eq_ok_iff.1 h
    -- The first colon ends the key, and the part was cut at every comma.
    exact htrim (fun hmem => hcomma (List.mem_append_left _ hmem)) hkey (Key.read_eq_ok_iff.1 hk)
  · rw [readPair_of_not_mem hcolon] at h
    obtain ⟨k, hk, rfl⟩ := map_eq_ok_iff.1 h
    exact htrim hcomma hcolon (Key.read_eq_ok_iff.1 hk)

end

variable [DecidableEq K]

/-- Pairs with commas between them are read in their sequence, and merged. -/
theorem read_of_spells {l : List (K × Direction)} {parts : List (List Char)}
    (hnames : ∀ e ∈ l, IsOrderName (Key.name e.1).toList) (h : List.Forall₂ Spells l parts) :
    read (String.ofList ([','].intercalate parts)) = .ok (.ofList l) := by
  have hspelled : List.Forall₂ (fun part e => (',' ∉ part ∧ trim part = part ∧ part ≠ []) ∧
      readPair part = .ok e) parts l := by
    refine (((List.forall₂_and_left l parts).2 ⟨hnames, h⟩).imp ?_).flip
    intro e part he
    obtain ⟨hname, hpart⟩ := he
    exact ⟨hpart.isPart hname, hpart.readPair_eq hname⟩
  -- No comma stands in a part, so that the text is cut just where parts were put together.
  obtain ⟨hparts, hread⟩ := (List.forall₂_and_left parts l).1 hspelled
  rw [read_intercalate hparts, mapM_eq_ok_iff.2 hread]
  rfl

/-- The names of keys that have been read can all be written again. -/
theorem fits_of_read {s : String} {o : SortOrder K} (h : read s = .ok o) :
    ∀ k ∈ o.keys, IsOrderName (Key.name k).toList := by
  obtain ⟨l, hl, ho⟩ := bind_eq_ok_iff.1 h
  obtain rfl := Except.ok.inj ho
  intro k hk
  obtain ⟨e, he, rfl⟩ := List.mem_map.1 ((InsertionMap.mem_keys_ofList l k).1 hk)
  obtain ⟨part, hpart, hread⟩ := exists_of_mem_of_mapM hl he
  apply fits_of_readPair hread
  -- The part lies between two commas, or what trimming has left of it does.
  obtain ⟨written, hwritten, rfl⟩ := List.mem_map.1 (List.mem_filter.1 hpart).1
  have hcomma : ',' ∉ written := fun hmem => by
    simpa using List.any_eq_false.1 (any_of_mem_splitOnP hwritten) ',' hmem
  exact mt mem_of_mem_trim hcomma

omit [DecidableEq K] in
theorem text_eq (o : SortOrder K) : o.text = String.ofList ([','].intercalate
    (o.entries.map fun e => (Key.name e.1).toList ++ ':' :: e.2.shortName.toList)) := by
  rw [← String.toList_inj, String.toList_ofList, text, String.toList_intercalate, List.map_map]
  simp [Function.comp_def]

theorem read_text {o : SortOrder K} (hnames : ∀ k ∈ o.keys, IsOrderName (Key.name k).toList) :
    read o.text = .ok o := by
  have hspelled : List.Forall₂ Spells o.entries
      (o.entries.map fun e => (Key.name e.1).toList ++ ':' :: e.2.shortName.toList) := by
    rw [List.forall₂_map_right_iff, List.forall₂_same]
    intro e _
    exact ⟨e.2.shortName.toList, .inl (by cases e.2 <;> decide), rfl⟩
  have hfits : ∀ e ∈ o.entries, IsOrderName (Key.name e.1).toList := fun e he =>
    hnames e.1 (List.mem_map_of_mem he)
  rw [text_eq, read_of_spells hfits hspelled, InsertionMap.ofList_entries]

/-- An order is read back from its text, with every key at its rank and in its direction, if and
only if the names of its keys can stand in an order text; those of all types of keys here can. An
order that was read from a text, whatever the names of other keys, is read back from its own. -/
theorem text_roundTrip :
    (∀ {K : Type} [DecidableEq K] [Key K],
      (HasOrderNames K → ∀ o : SortOrder K, read o.text = .ok o) ∧
      (∀ o : SortOrder K, read o.text = .ok o ↔
        ∀ k ∈ o.keys, IsOrderName (Key.name k).toList) ∧
      ∀ s (o : SortOrder K), read s = .ok o → read o.text = .ok o) ∧
    (HasOrderNames UserSort ∧ HasOrderNames TagSort ∧ HasOrderNames PostSort) ∧
    (HasOrderNames UserField ∧ HasOrderNames TagField ∧ HasOrderNames PostField) ∧
    HasOrderNames AccessRank ∧ HasOrderNames Safety ∧ HasOrderNames SettingKey := by
  refine ⟨?_, hasOrderNames_sorts, hasOrderNames_fields, by decide +kernel⟩
  intro K _ _
  refine ⟨?_, ?_, ?_⟩
  · intro hnames o
    exact read_text fun k _ => hnames k
  · intro o
    exact ⟨fits_of_read, read_text⟩
  · intro s o h
    exact read_text (fits_of_read h)

/-- The text has blanks, an empty pair and a repeated key, none of which its order has. -/
theorem text_roundTrip_tags :
    let s := " usages :desc,,name, usages:Ascending"
    let o : SortOrder TagSort := .ofList [(.usages, .ascending), (.name, .ascending)]
    HasOrderNames TagSort ∧ read s = .ok o ∧ o.text = "usages:asc,name:asc" ∧
      read o.text = .ok o := by
  intro s o
  have hnames : HasOrderNames TagSort := hasOrderNames_sorts.2.1
  have hread : read s = .ok o := by decide
  exact ⟨hnames, hread, by decide, text_roundTrip.1.2.2 s o hread⟩

end SortOrder

end EntitySearch
