import EntitySearch.Proofs.Search
import Mathlib.Algebra.Order.Floor.Div

/-!
Paging through the matches of a filter. The window of a page and the number of pages are computed
apart from each other, yet they agree at every boundary (`entities_ofList_eq_nil_iff`), so that the
pages cut the listing into consecutive parts and the question for a next page ends a walk at the
last part (`answer_pages_partition`).
-/

namespace EntitySearch

variable {α O C : Type}

namespace ResultPage

/-- One page of a list of matches, in exact numbers. -/
def ofList (f : Filter O C) (found : List α) (size number : Nat) : ResultPage α O C :=
  ⟨(found.drop ((number - 1) * size)).take size, found.length, number, size, f⟩

/-- What stands on the pages with the numbers 1 to `count`. -/
def entitiesUpTo (page : Nat → ResultPage α O C) (count : Nat) : List α :=
  (List.range' 1 count).flatMap fun number => (page number).entities

/-- The pages that are met from one page number on, for as long as there is a next page. -/
inductive Walk (answer : Nat → Except SearchError (ResultPage α O C)) :
    Nat → List (ResultPage α O C) → Prop
  | last {number : Nat} {p : ResultPage α O C} (hp : answer number = .ok p)
      (hnext : p.hasNext? = some false) : Walk answer number [p]
  | next {number : Nat} {p : ResultPage α O C} {rest : List (ResultPage α O C)}
      (hp : answer number = .ok p) (hnext : p.hasNext? = some true)
      (hrest : Walk answer (number + 1) rest) : Walk answer number (p :: rest)

section

variable {f : Filter O C} {found : List α} {size number : Nat}

theorem lt_ceilDiv_iff (hsize : 1 ≤ size) {total i : Nat} :
    i < total ⌈/⌉ size ↔ i * size < total := by
  rw [← not_le, ceilDiv_le_iff_le_mul (by omega), not_le, Nat.mul_comm]

theorem totalPages?_of_pos {p : ResultPage α O C} (hsize : 1 ≤ p.size) :
    p.totalPages? = some (p.total ⌈/⌉ p.size) := by
  rw [totalPages?, Nat.ceilDiv_eq_add_pred_div]
  by_cases h : p.total = 0
  · rw [if_pos h, h, ← Nat.ceilDiv_eq_add_pred_div, zero_ceilDiv]
  · rw [if_neg h, if_neg (by omega)]

theorem totalPages?_ofList (hsize : 1 ≤ size) :
    (ofList f found size number).totalPages? = some (found.length ⌈/⌉ size) :=
  totalPages?_of_pos hsize

theorem hasNext?_ofList (hsize : 1 ≤ size) :
    (ofList f found size number).hasNext? = some (decide (number < found.length ⌈/⌉ size)) := by
  rw [hasNext?, totalPages?_ofList hsize]
  rfl

theorem length_entities_ofList :
    (ofList f found size number).entities.length =
      min size (found.length - (number - 1) * size) := by
  rw [ofList, List.length_take, List.length_drop]

/-- The boundary at which the window and the number of pages meet. -/
theorem entities_ofList_eq_nil_iff (hsize : 1 ≤ size) (hnumber : 1 ≤ number) :
    (ofList f found size number).entities = [] ↔ found.length ⌈/⌉ size < number := by
  have hboundary : number - 1 < found.length ⌈/⌉ size ↔ (number - 1) * size < found.length :=
    lt_ceilDiv_iff hsize
  rw [← List.length_eq_zero_iff, length_entities_ofList]
  omega

theorem length_entities_ofList_of_lt (hsize : 1 ≤ size) (hnumber : 1 ≤ number)
    (hlt : number < found.length ⌈/⌉ size) :
    (ofList f found size number).entities.length = size := by
  have hfull : number * size < found.length := (lt_ceilDiv_iff hsize).1 hlt
  have hsplit : number * size = (number - 1) * size + size := by
    rw [← Nat.succ_mul]
    congr 1
    omega
  rw [length_entities_ofList]
  omega

theorem entitiesUpTo_ofList (f : Filter O C) (found : List α) (size count : Nat) :
    entitiesUpTo (ofList f found size) count = found.take (count * size) := by
  induction count with
  | zero => simp [entitiesUpTo]
  | succ count ih =>
    have hlast : (ofList f found size (1 + count)).entities =
        (found.drop (count * size)).take size := by
      rw [ofList, Nat.add_sub_cancel_left]
    rw [entitiesUpTo] at ih ⊢
    rw [List.range'_1_concat, List.flatMap_append, ih, List.flatMap_singleton, hlast, Nat.succ_mul,
      List.take_add]

theorem entitiesUpTo_ofList_ceilDiv (hsize : 1 ≤ size) :
    entitiesUpTo (ofList f found size) (found.length ⌈/⌉ size) = found := by
  have hcover : found.length ≤ size * (found.length ⌈/⌉ size) :=
    (ceilDiv_le_iff_le_mul (by omega)).1 le_rfl
  rw [entitiesUpTo_ofList, Nat.mul_comm]
  exact List.take_of_length_le hcover

end

namespace Walk

variable {answer : Nat → Except SearchError (ResultPage α O C)} {number : Nat}

theorem unique {xs ys : List (ResultPage α O C)} (hx : Walk answer number xs)
    (hy : Walk answer number ys) : xs = ys := by
  -- The page that a walk stands on says how it goes on.
  induction hx generalizing ys with
  | last hp hnext =>
    cases hy with
    | last hp' => rw [Except.ok.inj (hp.symm.trans hp')]
    | next hp' hnext' =>
      rw [← Except.ok.inj (hp.symm.trans hp'), hnext] at hnext'
      contradiction
  | next hp hnext _ ih =>
    cases hy with
    | last hp' hnext' =>
      rw [← Except.ok.inj (hp.symm.trans hp'), hnext] at hnext'
      contradiction
    | next hp' _ hrest' => rw [Except.ok.inj (hp.symm.trans hp'), ih hrest']

theorem ofPages {page : Nat → ResultPage α O C} (count : Nat)
    (hp : ∀ i ≤ count, answer (number + i) = .ok (page (number + i)))
    (hnext : ∀ i < count, (page (number + i)).hasNext? = some true)
    (hlast : (page (number + count)).hasNext? = some false) :
    Walk answer number ((List.range' number (count + 1)).map page) := by
  induction count generalizing number with
  | zero => exact .last (hp 0 le_rfl) hlast
  | succ count ih =>
    -- The pages after the first are counted from the next number on.
    have hstep (i : Nat) : number + 1 + i = number + (i + 1) := by omega
    rw [List.range'_succ, List.map_cons]
    refine .next (hp 0 (by omega)) (hnext 0 (by omega)) (ih ?_ ?_ ?_)
    · intro i hi
      rw [hstep]
      exact hp (i + 1) (by omega)
    · intro i hi
      rw [hstep]
      exact hnext (i + 1) (by omega)
    · rw [hstep]
      exact hlast

end Walk

end ResultPage

namespace Collection

variable [Key C] (S : Schema α O C) (today : Date) (saved : List α) (f : Filter O C)

/-- The pages of one size cut the listing of a search into consecutive parts. -/
structure PagesOf (size : Nat) (found : List α) (pages : Nat) (page : Nat → ResultPage α O C) :
    Prop where
  listing : Listing S today saved f found
  nodup : found.Nodup
  answer_eq : ∀ ordering number, 1 ≤ number →
    answer S today ordering saved f number size = .ok (page number)
  total : ∀ number, 1 ≤ number → (page number).total = found.length
  totalPages : ∀ number, 1 ≤ number → (page number).totalPages? = some pages
  hasNext : ∀ number, 1 ≤ number →
    (page number).hasNext? = some (decide ((page (number + 1)).entities ≠ []))
  joined : ResultPage.entitiesUpTo page pages = found
  nonempty : ∀ number, 1 ≤ number → number ≤ pages → (page number).entities ≠ []
  full : ∀ number, 1 ≤ number → number < pages → (page number).entities.length = size
  behind : ∀ number, pages < number → (page number).entities = []
  walk_iff : ∀ ordering walk,
    ResultPage.Walk (fun number => answer S today ordering saved f number size) 1 walk ↔
      walk = (List.range' 1 (max 1 pages)).map page

/-- The pages of a search cut its listing into consecutive parts. All but the last are full, none
is empty, every page behind them is, and a walk from the first page meets them all and ends. -/
theorem answer_pages_partition {p : Predicate C} (hp : f.compile S today = .ok p)
    (hfits : (S.remaining saved).length ≤ Number.maxNat64) {size : Nat} (hsize : 1 ≤ size) :
    ∃ found pages page, PagesOf S today saved f size found pages page := by
  have hlisting : Listing S today saved f _ := listing_sort hp
  let found := S.sort (f.effectiveOrder S) ((S.remaining saved).filter (p.holds S))
  let pages := found.length ⌈/⌉ size
  let page (number : Nat) : ResultPage α O C := .ofList f found size number
  have hanswer (ordering : Bool) (number : Nat) (hnumber : 1 ≤ number) :
      answer S today ordering saved f number size = .ok (page number) := by
    rw [answer_eq_page]
    exact page_of_listing hp hlisting hfits hnumber hsize
  have hempty (number : Nat) (hnumber : 1 ≤ number) :
      (page number).entities = [] ↔ pages < number :=
    ResultPage.entities_ofList_eq_nil_iff hsize hnumber
  have hnext (number : Nat) : (page number).hasNext? = some (decide (number < pages)) :=
    ResultPage.hasNext?_ofList hsize
  refine ⟨found, pages, page, {
    listing := hlisting
    nodup := hlisting.nodup
    answer_eq := hanswer
    total := fun _ _ => rfl
    totalPages := fun _ _ => ResultPage.totalPages?_ofList hsize
    hasNext := ?_
    joined := ResultPage.entitiesUpTo_ofList_ceilDiv hsize
    nonempty := ?_
    full := fun _ => ResultPage.length_entities_ofList_of_lt hsize
    behind := ?_
    walk_iff := ?_ }⟩
  · intro number _
    rw [hnext, Option.some_inj, decide_eq_decide, ne_eq, hempty (number + 1) (by omega)]
    omega
  · intro number hnumber hle
    rw [ne_eq, hempty number hnumber]
    omega
  · intro number hlt
    exact (hempty number (by omega)).2 hlt
  · intro ordering walk
    -- A walk always sees the first page, even if that one is empty.
    have hwalk : ResultPage.Walk (fun number => answer S today ordering saved f number size) 1
        ((List.range' 1 (max 1 pages)).map page) := by
      have hcount : max 1 pages = pages - 1 + 1 := by omega
      rw [hcount]
      apply ResultPage.Walk.ofPages
      · intro i _
        exact hanswer ordering (1 + i) (by omega)
      · intro i hi
        rw [hnext, decide_eq_true (by omega)]
      · rw [hnext, decide_eq_false (by omega)]
    constructor
    · intro h
      exact h.unique hwalk
    · intro h
      rw [h]
      exact hwalk

theorem answer_pages_partition_tags :
    let today : Date := ⟨2024, 6, 15⟩
    let tag (id : BitVec 128) (name : String) : Tag :=
      ⟨⟨id⟩, [name], "animal", 4, ⟨0, 0, by decide⟩, none⟩
    let saved := [tag 1 "cat", tag 2 "dog", tag 3 "cow", tag 4 "crow"]
    let f : Filter TagSort TagField := ⟨[⟨.name, .plain "c*", false⟩], .empty⟩
    ∃ p, f.compile Tag.schema today = .ok p ∧
      (Tag.schema.remaining saved).length ≤ Number.maxNat64 ∧
      ∃ found pages page, PagesOf Tag.schema today saved f 2 found pages page := by
  intro today tag saved f
  have hp : f.compile Tag.schema today =
      .ok [⟨.name, false, [.pattern [.literal 'c', .run]]⟩] := rfl
  have hfits : (Tag.schema.remaining saved).length ≤ Number.maxNat64 := by decide
  exact ⟨_, hp, hfits, answer_pages_partition Tag.schema today saved f hp hfits (by decide)⟩

end Collection

end EntitySearch
