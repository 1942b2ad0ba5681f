import EntitySearch.Proofs.Wording

/-!
The two ways to write a sort order: pairs with commas between them, and sort tokens of a query
text. Each has a reader of its own, yet both name the same keys and directions and merge repeated
keys alike (`read_sortTokens_iff_read_orderText`).
-/

namespace EntitySearch

open Outcome Text

namespace SortOrder

variable {K : Type} [Key K]

theorem readPair_of_not_mem {cs : List Char} (h : ':' ∉ cs) :
    readPair cs = (Key.read (String.ofList (trim cs))).map fun k : K => (k, .ascending) := by
  have hcut : cutAt? (· == ':') cs = none := by
    apply cutAt?_eq_none
    intro c hc
    simpa using ne_of_mem_of_not_mem hc h
  rw [readPair, hcut]
  cases Key.read (K := K) (String.ofList (trim cs)) <;> rfl

theorem readPair_of_append {key : List Char} (hkey : ':' ∉ key) (direction : List Char) :
    readPair (key ++ ':' :: direction) = (Direction.read (String.ofList direction)).bind fun d =>
      (Key.read (String.ofList (trim key))).map fun k : K => (k, d) := by
  have hcut : cutAt? (· == ':') (key ++ ':' :: direction) = some (key, direction) := by
    apply cutAt?_append _ (by decide)
    intro c hc
    simpa using ne_of_mem_of_not_mem hc hkey
  simp only [readPair, hcut]
  cases Direction.read (String.ofList direction) with
  | error e => rfl
  | ok d => cases Key.read (K := K) (String.ofList (trim key)) <;> rfl

/-- Parts that stand between commas, none of them empty, are read one by one. -/
theorem read_intercalate [DecidableEq K] {parts : List (List Char)}
    (hparts : ∀ part ∈ parts, ',' ∉ part ∧ trim part = part ∧ part ≠ []) :
    read (String.ofList ([','].intercalate parts)) =
      (parts.mapM (readPair (K := K))).map InsertionMap.ofList := by
  have hsplit : ((([','].intercalate parts).splitOn ',').map trim).filter (!·.isEmpty) =
      parts := by
    cases parts with
    | nil => rfl
    | cons part parts =>
      have hcomma : ∀ t ∈ part :: parts, ',' ∉ t := fun t ht => (hparts t ht).1
      rw [List.splitOn_intercalate ',' hcomma (List.cons_ne_nil part parts),
        List.map_congr_left fun t ht => (hparts t ht).2.1, List.map_id', List.filter_eq_self]
      intro t ht
      simpa using (hparts t ht).2.2
  rw [read, String.toList_ofList, hsplit]
  cases parts.mapM (readPair (K := K)) <;> rfl

end SortOrder

/-- A pair of an order as callers write it: a key and perhaps a direction. -/
structure WrittenPair where
  key : List Char
  direction : Option (List Char)

namespace WrittenPair

/-- The key, and behind the mark the direction if there is one. -/
def text (mark : Char) (p : WrittenPair) : List Char :=
  match p.direction with
  | none => p.key
  | some word => p.key ++ mark :: word

/-- A text that none of the marks cuts, that no blank ends and that nothing in it escapes. -/
structure IsPlainWord (cs : List Char) : Prop where
  not_blank : cs.any isBlank = false
  not_comma : ',' ∉ cs
  not_colon : ':' ∉ cs
  not_escape : '\\' ∉ cs

instance (cs : List Char) : Decidable (IsPlainWord cs) :=
  decidable_of_iff (cs.any isBlank = false ∧ ',' ∉ cs ∧ ':' ∉ cs ∧ '\\' ∉ cs)
    ⟨fun ⟨hblank, hcomma, hcolon, hescape⟩ => ⟨hblank, hcomma, hcolon, hescape⟩,
      fun h => ⟨h.not_blank, h.not_comma, h.not_colon, h.not_escape⟩⟩

structure IsPlain (p : WrittenPair) : Prop where
  key_ne_nil : p.key ≠ []
  key : IsPlainWord p.key
  direction : ∀ word ∈ p.direction, IsPlainWord word

instance (p : WrittenPair) : Decidable p.IsPlain :=
  decidable_of_iff
    (p.key ≠ [] ∧ IsPlainWord p.key ∧ ∀ word ∈ p.direction, IsPlainWord word)
    ⟨fun ⟨hne, hkey, hdirection⟩ => ⟨hne, hkey, hdirection⟩,
      fun h => ⟨h.key_ne_nil, h.key, h.direction⟩⟩

/-- The key has this name, and the direction one of its names in any letter case; without a
direction the order ascends. -/
def Says {K : Type} [Key K] (p : WrittenPair) (k : K) (d : Direction) : Prop :=
  Key.name k = String.ofList p.key ∧
    match p.direction with
    | none => d = .ascending
    | some word => d.IsNamed word

section

variable {p : WrittenPair} {mark : Char}

theorem IsPlain.not_mem_text (h : p.IsPlain) {c : Char} (hmark : c ≠ mark)
    (hc : ∀ cs, IsPlainWord cs → c ∉ cs) : c ∉ p.text mark := by
  obtain ⟨key, direction⟩ := p
  cases direction with
  | none => exact hc key h.key
  | some word => simp [text, hc key h.key, hmark, hc word (h.direction word rfl)]

theorem IsPlain.not_blank_text (h : p.IsPlain) (hmark : isBlank mark = false) :
    (p.text mark).any isBlank = false := by
  obtain ⟨key, direction⟩ := p
  cases direction with
  | none => exact h.key.not_blank
  | some word =>
    rw [text, List.any_append, List.any_cons, h.key.not_blank, hmark,
      (h.direction word rfl).not_blank]
    rfl

theorem IsPlain.text_ne_nil (h : p.IsPlain) : p.text mark ≠ [] := by
  obtain ⟨key, direction⟩ := p
  cases direction with
  | none => exact h.key_ne_nil
  | some word => exact List.append_ne_nil_of_left_ne_nil h.key_ne_nil _

variable {K : Type} [Key K] {k : K} {d : Direction}

theorem says_none_iff {key : List Char} :
    Says ⟨key, none⟩ k d ↔ Key.read (String.ofList key) = .ok k ∧ d = .ascending := by
  rw [Key.read_eq_ok_iff, Says]

theorem says_some_iff {key word : List Char} :
    Says ⟨key, some word⟩ k d ↔
      Key.read (String.ofList key) = .ok k ∧ Direction.read (String.ofList word) = .ok d := by
  rw [Key.read_eq_ok_iff, Direction.read_eq_ok_iff, Says]

/-- The reader of order texts looks at the direction first. -/
theorem readPair_text_iff (h : p.IsPlain) :
    SortOrder.readPair (p.text ':') = .ok (k, d) ↔ p.Says k d := by
  obtain ⟨key, direction⟩ := p
  have htrim : trim key = key := trim_of_not_blank h.key.not_blank
  cases direction with
  | none =>
    rw [text, SortOrder.readPair_of_not_mem h.key.not_colon, htrim, says_none_iff]
    cases Key.read (K := K) (String.ofList key) <;> simp [Except.map, eq_comm]
  | some word =>
    rw [text, SortOrder.readPair_of_append h.key.not_colon, htrim, says_some_iff]
    cases Direction.read (String.ofList word) <;> cases Key.read (K := K) (String.ofList key) <;>
      simp [Except.bind, Except.map]

/-- The reader of sort tokens looks at the key first. -/
theorem readSort_text_iff (h : p.IsPlain) :
    Query.readSort (p.text ',') = .ok (k, d) ↔ p.Says k d := by
  have hescape : '\\' ∉ p.text ',' := h.not_mem_text (by decide) fun _ => IsPlainWord.not_escape
  have hunescape : unescape? (p.text ',') = some (p.text ',') := unescape?_of_plain hescape
  obtain ⟨key, direction⟩ := p
  cases direction with
  | none =>
    rw [Query.readSort_of_not_mem hunescape h.key.not_comma, text, says_none_iff]
    cases Key.read (K := K) (String.ofList key) <;> simp [Except.map, eq_comm]
  | some word =>
    rw [Query.readSort_of_append hunescape h.key.not_comma, says_some_iff]
    cases Key.read (K := K) (String.ofList key) <;> cases Direction.read (String.ofList word) <;>
      simp [Except.bind, Except.map]

end

/-- The pairs say these keys and directions, one by one. -/
def AllSay {K : Type} [Key K] (pairs : List WrittenPair) (l : List (K × Direction)) : Prop :=
  List.Forall₂ (fun p e => p.Says e.1 e.2) pairs l

def orderText (pairs : List WrittenPair) : String :=
  String.ofList ([','].intercalate (pairs.map (text ':')))

def sortToken (p : WrittenPair) : List Char := Query.sortToken false (p.text ',')

section

variable {pairs : List WrittenPair}

/-- Two readers that accept the same for each pair accept the same for all of them. -/
theorem mapM_eq_ok_iff_allSay {K : Type} [Key K]
    {read : WrittenPair → Except InputError (K × Direction)}
    (hread : ∀ p ∈ pairs, ∀ e, read p = .ok e ↔ p.Says e.1 e.2) {l : List (K × Direction)} :
    pairs.mapM read = .ok l ↔ AllSay pairs l := by
  rw [mapM_eq_ok_iff]
  constructor
  · intro h
    refine ((List.forall₂_and_left pairs l).2 ⟨hread, h⟩).imp ?_
    rintro p e ⟨hp, he⟩
    exact (hp e).1 he
  · intro h
    refine ((List.forall₂_and_left pairs l).2 ⟨hread, h⟩).imp ?_
    rintro p e ⟨hp, he⟩
    exact (hp e).2 he

variable (hplain : ∀ p ∈ pairs, p.IsPlain)

include hplain

theorem read_orderText_iff {K : Type} [Key K] [DecidableEq K] {o : SortOrder K} :
    SortOrder.read (orderText pairs) = .ok o ↔ ∃ l, AllSay pairs l ∧ .ofList l = o := by
  have hparts : ∀ part ∈ pairs.map (text ':'), ',' ∉ part ∧ trim part = part ∧ part ≠ [] := by
    rw [List.forall_mem_map]
    intro p hp
    have hp := hplain p hp
    exact ⟨hp.not_mem_text (by decide) fun _ => IsPlainWord.not_comma,
      trim_of_not_blank (hp.not_blank_text (by decide)), hp.text_ne_nil⟩
  have hread : ∀ p ∈ pairs, ∀ e : K × Direction,
      (SortOrder.readPair ∘ text ':') p = .ok e ↔ p.Says e.1 e.2 := fun p hp e =>
    readPair_text_iff (hplain p hp)
  rw [orderText, SortOrder.read_intercalate hparts, List.mapM_map, map_eq_ok_iff]
  simp only [mapM_eq_ok_iff_allSay hread]

theorem read_sortTokens_iff {α O C : Type} [DecidableEq O] [Key O] [Key C] {S : Schema α O C}
    {s : List Char} (hs : Joined (pairs.map sortToken) s) {f : Filter O C} :
    Query.read S (String.ofList s) = .ok f ↔ ∃ l, AllSay pairs l ∧ ⟨[], .ofList l⟩ = f := by
  have hwords : ∀ t ∈ pairs.map sortToken, IsWord t := by
    rw [List.forall_mem_map]
    intro p hp
    exact Query.isWord_sortToken false ((hplain p hp).not_blank_text (by decide))
  have hread : ∀ p ∈ pairs, ∀ e : O × Direction,
      Query.readSort (p.text ',') = .ok e ↔ p.Says e.1 e.2 := fun p hp e =>
    readSort_text_iff (hplain p hp)
  have htoken : Query.readToken S ∘ sortToken = fun p =>
      (Query.readSort (p.text ',')).map fun e => .order e.1 e.2 :=
    funext fun p => Query.readToken_sort S false (p.text ',')
  have hitems (l : List (O × Direction)) :
      Query.ofItems (l.map fun e => .order e.1 e.2) = (⟨[], .ofList l⟩ : Filter O C) := by
    simp [Query.ofItems, List.filterMap_map, Function.comp_def, Query.requirement?,
      Query.orderPair?]
  rw [Query.read_joined hs hwords, List.mapM_map, htoken, mapM_map_comm]
  simp only [map_eq_ok_iff, mapM_eq_ok_iff_allSay hread]
  constructor
  · rintro ⟨_, ⟨l, hl, rfl⟩, rfl⟩
    exact ⟨l, hl, (hitems l).symm⟩
  · rintro ⟨l, hl, rfl⟩
    exact ⟨_, ⟨l, hl, rfl⟩, hitems l⟩

/-- Pairs without blanks, commas, colons and backslashes mean the same order whether they stand
between commas or as one sort token each, and if one of the texts is not read, the other is not read
either. What they mean is an order if and only if every pair says a key and a direction. -/
theorem read_sortTokens_iff_read_orderText {α O C : Type} [DecidableEq O] [Key O] [Key C]
    (S : Schema α O C) {s : List Char} (hs : Joined (pairs.map sortToken) s) :
    (∀ f : Filter O C, Query.read S (String.ofList s) = .ok f ↔
      ∃ o, SortOrder.read (orderText pairs) = .ok o ∧ f = ⟨[], o⟩) ∧
    ∀ o : SortOrder O, SortOrder.read (orderText pairs) = .ok o ↔
      ∃ l, AllSay pairs l ∧ .ofList l = o := by
  refine ⟨fun f => ?_, fun o => read_orderText_iff hplain⟩
  simp only [read_sortTokens_iff hplain hs, read_orderText_iff hplain]
  constructor
  · rintro ⟨l, hl, rfl⟩
    exact ⟨_, ⟨l, hl, rfl⟩, rfl⟩
  · rintro ⟨_, ⟨l, hl, rfl⟩, rfl⟩
    exact ⟨l, hl, rfl⟩

end

/-- The key `name` is repeated: it keeps its place and takes the last direction. -/
theorem read_sortTokens_iff_read_orderText_tag :
    let pairs : List WrittenPair := [⟨"name".toList, some "DESC".toList⟩, ⟨"usages".toList, none⟩,
      ⟨"name".toList, some "Asc".toList⟩]
    let s := "sort:name,DESC sort:usages\tsort:name,Asc".toList
    let o : SortOrder TagSort := .ofList [(.name, .ascending), (.usages, .ascending)]
    (∀ p ∈ pairs, p.IsPlain) ∧ Joined (pairs.map sortToken) s ∧
      orderText pairs = "name:DESC,usages,name:Asc" ∧
      SortOrder.read (orderText pairs) = .ok o ∧
      Query.read Tag.schema (String.ofList s) = .ok ⟨[], o⟩ := by
  intro pairs s o
  have hplain : ∀ p ∈ pairs, p.IsPlain := by decide
  have hs : Joined (pairs.map sortToken) s :=
    .next (t := "sort:name,DESC".toList) (by decide)
      (.next (t := "sort:usages".toList) (by decide)
        (.last "sort:name,Asc".toList))
  have hname : Key.name TagSort.name = String.ofList "name".toList := String.ofList_toList.symm
  have husages : Key.name TagSort.usages = String.ofList "usages".toList :=
    String.ofList_toList.symm
  have hsay : AllSay pairs
      [(TagSort.name, .descending), (.usages, .ascending), (.name, .ascending)] :=
    .cons ⟨hname, .inl (by decide)⟩ (.cons ⟨husages, rfl⟩
      (.cons ⟨hname, .inl (by decide)⟩ .nil))
  obtain ⟨hread, ho⟩ := read_sortTokens_iff_read_orderText hplain Tag.schema hs
  have hok : SortOrder.read (orderText pairs) = .ok o := (ho o).2 ⟨_, hsay, rfl⟩
  exact ⟨hplain, hs, rfl, hok, (hread ⟨[], o⟩).2 ⟨o, hok, rfl⟩⟩

end WrittenPair

end EntitySearch
