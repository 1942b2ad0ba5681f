import EntitySearch.Proofs.Paging
import EntitySearch.Proofs.UserHistory

/-!
Lookups and searches of one collection. A lookup gives what was saved last under an identifier, and
the pages of a filter without requirements show each saved identifier once, with what a lookup gives
for it. An entity that is saved again stays where it was if neither the order nor the requirements
of a filter tell the new value from the old. All this holds after any sequence of saves and of edits
of settings (`mirrors_after_writes`).
-/

namespace EntitySearch

variable {α O C : Type}

/-- Neither the order of the filter nor its requirements tell the two entities apart. -/
structure Filter.Alike [Key C] (S : Schema α O C) (today : Date) (f : Filter O C) (a b : α) :
    Prop where
  sortValue_eq : ∀ k ∈ (f.effectiveOrder S).keys, S.sortValue a k = S.sortValue b k
  matches_iff : f.Matches S today a ↔ f.Matches S today b

theorem Filter.Alike.refl [Key C] {S : Schema α O C} {today : Date} {f : Filter O C} (a : α) :
    f.Alike S today a a := ⟨fun _ _ => rfl, Iff.rfl⟩

theorem SortOrder.compareBy_congr {K : Type} {value : α → K → Value} {a a' b b' : α}
    {pairs : List (K × Direction)} (ha : ∀ k ∈ pairs.map Prod.fst, value a k = value a' k)
    (hb : ∀ k ∈ pairs.map Prod.fst, value b k = value b' k) :
    compareBy value a b pairs = compareBy value a' b' pairs := by
  induction pairs with
  | nil => rfl
  | cons pair pairs ih =>
    rw [List.map_cons, List.forall_mem_cons] at ha hb
    rw [compareBy, compareBy, ha.1, hb.1, ih ha.2 hb.2]

/-- Sorting commutes with an exchange of entities that keeps their sort values. -/
theorem Schema.sort_map {S : Schema α O C} {order : SortOrder O} {g : α → α} {l : List α}
    (h : ∀ a ∈ l, ∀ k ∈ order.keys, S.sortValue (g a) k = S.sortValue a k) :
    S.sort order (l.map g) = (S.sort order l).map g := by
  refine (List.map_mergeSort fun a ha b hb => ?_).symm
  rw [SortOrder.compareBy_congr (h a ha) (h b hb)]

namespace ResultPage

/-- The identifiers on the page that a search answers, in their sequence. -/
def idsOf (S : Schema α O C) (answer : Except SearchError (ResultPage α O C)) :
    Except SearchError (List Uuid) := answer.map fun p => p.entities.map S.id

end ResultPage

namespace Collection

open ResultPage

section

variable [Key C] (S : Schema α O C) (today : Date) (s : Store (StateM (Collection α)) α O C)
  (saved : List α) (c : Collection α)

/-- The pages of one size of a filter without requirements show each saved identifier once, and
with it the entity that a lookup gives. -/
structure ListsAll (order : SortOrder O) (size pages : Nat) (page : Nat → ResultPage α O C) :
    Prop where
  answer : ∀ number, 1 ≤ number →
    run (s.findPage S today (Filter.empty.withOrder order) number size) c = (.ok (page number), c)
  totalPages : ∀ number, 1 ≤ number → (page number).totalPages? = some pages
  behind : ∀ number, pages < number → (page number).entities = []
  nodup : ((entitiesUpTo page pages).map S.id).Nodup
  mem_iff : ∀ id, id ∈ (entitiesUpTo page pages).map S.id ↔ ∃ a ∈ saved, S.id a = id
  find : ∀ a ∈ entitiesUpTo page pages, run (s.find S (S.id a)) c = (.ok a, c)

/-- Lookups and searches of the collection `c` see one and the same history of saves. Pages show all
of it as long as a 64-bit number counts the entities. -/
structure Mirrors : Prop where
  find_eq_ok_iff : ∀ id a, run (s.find S id) c = (.ok a, c) ↔ S.IsLastSave saved id a
  find_eq_error_iff : ∀ id e, run (s.find S id) c = (.error e, c) ↔
    e = .notFound S.singular id ∧ ∀ a ∈ saved, S.id a ≠ id
  listsAll : c.size ≤ Number.maxNat64 → ∀ order size, 1 ≤ size →
    ∃ pages page, ListsAll S today s saved c order size pages page
  idsOf_save : ∀ (f : Filter O C) a b, S.IsLastSave saved (S.id a) b → f.Alike S today a b →
    ∀ number size,
      idsOf S (run (s.findPage S today f number size) (run (s.save a) c).2).1 =
        idsOf S (run (s.findPage S today f number size) c).1

end

section

variable [Key C] {S : Schema α O C} {today : Date} {saved : List α} {f : Filter O C}

theorem run_find_ofHistory_eq_ok_iff (ordering : Bool) (id : Uuid) (a : α) :
    run ((store S today ordering).find S id) (ofHistory S saved) = (.ok a, ofHistory S saved) ↔
      S.IsLastSave saved id a := by
  rw [run_find, get?_ofHistory, ← Schema.lastSave?_eq_some_iff]
  cases S.lastSave? saved id <;> simp

theorem run_find_ofHistory_eq_error_iff (ordering : Bool) (id : Uuid) (e : SearchError) :
    run ((store S today ordering).find S id) (ofHistory S saved) =
        (.error e, ofHistory S saved) ↔
      e = .notFound S.singular id ∧ ∀ a ∈ saved, S.id a ≠ id := by
  rw [run_find, get?_ofHistory, ← Schema.lastSave?_eq_none_iff]
  cases S.lastSave? saved id <;> simp [eq_comm]

theorem listsAll_ofHistory (ordering : Bool) (hfits : (ofHistory S saved).size ≤ Number.maxNat64)
    (order : SortOrder O) {size : Nat} (hsize : 1 ≤ size) :
    ∃ pages page,
      ListsAll S today (store S today ordering) saved (ofHistory S saved) order size pages
        page := by
  let f : Filter O C := Filter.empty.withOrder order
  have hp : f.compile S today = .ok [] := rfl
  have hlisting : Listing S today saved f _ := listing_sort hp
  let found := S.sort (f.effectiveOrder S) ((S.remaining saved).filter (Predicate.holds S []))
  have hfits' : (S.remaining saved).length ≤ Number.maxNat64 := by
    rwa [← values_ofHistory, InsertionMap.values, List.length_map]
  have hmem (a : α) : a ∈ found ↔ S.lastSave? saved (S.id a) = some a := by
    rw [hlisting.mem_iff, Schema.mem_remaining_iff]
    exact and_iff_left (List.forall_mem_nil _)
  let page (number : Nat) : ResultPage α O C := .ofList f found size number
  have hshown : entitiesUpTo page (found.length ⌈/⌉ size) = found :=
    entitiesUpTo_ofList_ceilDiv hsize
  refine ⟨found.length ⌈/⌉ size, page, ?_, ?_, ?_, ?_, ?_, ?_⟩
  · intro number hnumber
    rw [run_findPage, page_of_listing hp hlisting hfits' hnumber hsize]
    rfl
  · intro number _
    exact totalPages?_ofList hsize
  · intro number hlt
    exact (entities_ofList_eq_nil_iff hsize (by omega)).2 hlt
  · rw [hshown]
    -- Two entities under one identifier would both be the last save there.
    refine hlisting.nodup.map_on fun a ha b hb hid => ?_
    rw [hmem] at ha hb
    rw [hid, hb] at ha
    exact (Option.some.inj ha).symm
  · intro id
    rw [hshown, List.mem_map]
    refine Iff.trans ?_ Schema.exists_lastSave?_iff
    constructor
    · intro h
      obtain ⟨a, ha, rfl⟩ := h
      exact ⟨a, (hmem a).1 ha⟩
    · intro h
      obtain ⟨a, ha⟩ := h
      obtain rfl := Schema.id_of_lastSave? ha
      exact ⟨a, (hmem a).2 ha, rfl⟩
  · intro a ha
    rw [hshown, hmem] at ha
    exact (run_find_ofHistory_eq_ok_iff ordering _ a).2 (Schema.lastSave?_eq_some_iff.1 ha)

/-- Entities that are exchanged for others which a filter does not tell from them, each under its
identifier, leave the identifiers on every page as they were. -/
theorem idsOf_page_of_alike {c c' : Collection α} {g : α → α}
    (hvalues : c'.values = c.values.map g) (hid : ∀ a, S.id (g a) = S.id a)
    (halike : ∀ a ∈ c.values, f.Alike S today (g a) a) (number size : Nat) :
    idsOf S (c'.page S today f number size) = idsOf S (c.page S today f number size) := by
  simp only [page]
  cases Window.ofPage number size with
  | error e => rfl
  | ok window =>
    cases hp : f.compile S today with
    | error e => rfl
    | ok p =>
      let order := f.effectiveOrder S
      let matching := c.values.filter (p.holds S)
      have hholds : ∀ a ∈ c.values, p.holds S (g a) = p.holds S a := by
        intro a ha
        rw [Bool.eq_iff_iff, Predicate.holds_iff hp, Predicate.holds_iff hp]
        exact (halike a ha).matches_iff
      have hfound : c'.values.filter (p.holds S) = matching.map g := by
        rw [hvalues, List.filter_map]
        congr 1
        exact List.filter_congr hholds
      have hsorted : S.sort order (matching.map g) = (S.sort order matching).map g :=
        Schema.sort_map fun a ha => (halike a (List.mem_of_mem_filter ha)).sortValue_eq
      have hids : S.id ∘ g = S.id := funext hid
      have hshown :
          (window.apply (S.sort order (c'.values.filter (p.holds S)))).map S.id =
            (window.apply (S.sort order matching)).map S.id :=
        calc
          _ = (window.apply ((S.sort order matching).map g)).map S.id := by rw [hfound, hsorted]
          _ = ((window.apply (S.sort order matching)).map g).map S.id := by rw [Window.apply_map]
          _ = _ := by rw [List.map_map, hids]
      exact congrArg Except.ok hshown

theorem idsOf_page_save {a b : α} (hlast : S.lastSave? saved (S.id a) = some b)
    (halike : f.Alike S today a b) (number size : Nat) :
    idsOf S (((ofHistory S saved).save S a).page S today f number size) =
      idsOf S ((ofHistory S saved).page S today f number size) := by
  refine idsOf_page_of_alike (replaced_save_ofHistory hlast).values_eq ?_ ?_ number size
  · intro x
    split
    · next h => exact h.symm
    · rfl
  · intro x hx
    rw [values_ofHistory, Schema.mem_remaining_iff] at hx
    split
    · next h =>
      -- The collection holds one entity under the identifier, the one that is replaced.
      rw [h, hlast] at hx
      exact Option.some.inj hx ▸ halike
    · exact .refl x

theorem mirrors_ofHistory (S : Schema α O C) (today : Date) (ordering : Bool) (saved : List α) :
    Mirrors S today (store S today ordering) saved (ofHistory S saved) := by
  refine ⟨run_find_ofHistory_eq_ok_iff ordering, run_find_ofHistory_eq_error_iff ordering, ?_, ?_⟩
  · intro hfits order size hsize
    exact listsAll_ofHistory ordering hfits order hsize
  · intro f a b hlast halike number size
    have hsave : run ((store S today ordering).save a) (ofHistory S saved) =
        (.ok a, (ofHistory S saved).save S a) := rfl
    rw [hsave, run_findPage, run_findPage]
    exact idsOf_page_save (Schema.lastSave?_eq_some_iff.2 hlast) halike number size

end

/-- After saves of whatever entities, and after saves of users among which settings are edited,
lookups and searches of the collection see one and the same history. -/
theorem mirrors_after_writes (today : Date) (ordering : Bool) :
    (∀ {α O C : Type} [Key C] (S : Schema α O C) (saved : List α),
      let s := store S today ordering
      Mirrors S today s saved (run (s.saveAll saved) .empty).2) ∧
    ∀ steps : List UserStep,
      let s := store User.schema today ordering
      (∃ saved, UserStep.History steps saved) ∧
      ∀ saved, UserStep.History steps saved →
        Mirrors User.schema today s saved (UserStep.performAll s steps .empty) := by
  constructor
  · intro α O C _ S saved s
    have hstate : (run (s.saveAll saved) .empty).2 = ofHistory S saved := by
      rw [run_saveAll]
      rfl
    rw [hstate]
    exact mirrors_ofHistory S today ordering saved
  · intro steps s
    refine ⟨UserStep.exists_history steps, fun saved h => ?_⟩
    rw [UserStep.performAll_of_history today ordering h]
    exact mirrors_ofHistory User.schema today ordering saved

/-- A member and a visitor are saved, and each asks for 25 posts a page; the visitor's settings are
not saved. Then the member gets an address, which no search by name can tell. -/
theorem mirrors_after_writes_member :
    let today : Date := ⟨2024, 6, 15⟩
    let user (id : BitVec 128) (rank : AccessRank) : User :=
      ⟨⟨id⟩, "reginald", none, "", rank, ⟨0, 0, by decide⟩, none, .standard⟩
    let changes : InsertionMap String Json := .ofList [("posts_per_page", .integer 25)]
    let edited := { user 1 .regular with settings := { postsPerPage := 25 } }
    let steps : List UserStep :=
      [.save (user 1 .regular), .save (user 2 .anonymous), .edit ⟨1⟩ changes, .edit ⟨2⟩ changes]
    let saved := [user 1 .regular, user 2 .anonymous, edited]
    let s := store User.schema today true
    let c := UserStep.performAll s steps .empty
    let f : Filter UserSort UserField :=
      ⟨[⟨.name, .plain "r*", false⟩], .ofList [(.name, .ascending)]⟩
    let addressed := { edited with email := some "reginald@example.com" }
    UserStep.History steps saved ∧ Mirrors User.schema today s saved c ∧
      run (s.find User.schema ⟨1⟩) c = (.ok edited, c) ∧
      run (s.find User.schema ⟨3⟩) c = (.error (.notFound "user" ⟨3⟩), c) ∧
      (∃ pages page, ListsAll User.schema today s saved c .empty 1 pages page) ∧
      f.Alike User.schema today addressed edited ∧
      ∀ number size,
        idsOf User.schema
            (run (s.findPage User.schema today f number size) (run (s.save addressed) c).2).1 =
          idsOf User.schema (run (s.findPage User.schema today f number size) c).1 := by
  intro today user changes edited steps saved s c f addressed
  have hrange : (SettingChange.postsPerPage 25).InRange := by decide
  have happly : Settings.standard.apply changes = .ok edited.settings :=
    Settings.apply_entry hrange .standard
  obtain ⟨hsuit, hchanged⟩ := Settings.apply_eq_ok_iff.1 happly
  have hmember : User.schema.IsLastSave [user 1 .regular, user 2 .anonymous] ⟨1⟩
      (user 1 .regular) := ⟨rfl, [], [user 2 .anonymous], rfl, by decide⟩
  have hvisitor : User.schema.IsLastSave saved ⟨2⟩ (user 2 .anonymous) :=
    ⟨rfl, [user 1 .regular], [edited], rfl, by decide⟩
  have hedited : User.schema.IsLastSave saved ⟨1⟩ edited :=
    ⟨rfl, [user 1 .regular, user 2 .anonymous], [], rfl, by decide⟩
  have hhistory : UserStep.History steps saved :=
    (((UserStep.History.nil.step (.save (user 1 .regular))).step (.save (user 2 .anonymous))).step
      (.edited hmember (by decide) hsuit hchanged)).step (.anonymous hvisitor rfl)
  have hmirrors : Mirrors User.schema today s saved c :=
    ((mirrors_after_writes today true).2 steps).2 saved hhistory
  have hfits : c.size ≤ Number.maxNat64 := by
    have hc : c = ofHistory User.schema saved :=
      UserStep.performAll_of_history today true hhistory
    rw [hc]
    decide
  have halike : f.Alike User.schema today addressed edited := by
    refine ⟨?_, ?_⟩
    · intro k _
      cases k <;> rfl
    · simp only [Filter.Matches, f, List.forall_mem_singleton]
      exact Iff.rfl
  exact ⟨hhistory, hmirrors, (hmirrors.find_eq_ok_iff ⟨1⟩ edited).2 hedited,
    (hmirrors.find_eq_error_iff ⟨3⟩ _).2 ⟨rfl, by decide⟩,
    hmirrors.listsAll hfits .empty 1 (by decide), halike,
    hmirrors.idsOf_save f addressed edited hedited halike⟩

end Collection

end EntitySearch
