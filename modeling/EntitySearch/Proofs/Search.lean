import EntitySearch.Proofs.Listing
import EntitySearch.Proofs.Window
import EntitySearch.Tag

/-!
Searches on a collection. Whether the collection orders and pages by itself or leaves that to the
caller, a search gives the same page and changes nothing (`run_findPage`). The page is a slice of
the listing that the history of saves and the filter determine (`answer_eq_slice_of_listing`).
-/

namespace EntitySearch

variable {α O C : Type}

namespace Store

def saveAll {m : Type → Type} [Monad m] (s : Store m α O C) : List α → ExceptT SearchError m PUnit
  | [] => pure ⟨⟩
  | a :: saved => do
    let _ ← s.save a
    s.saveAll saved

end Store

namespace Collection

/-- The answer of an action on a collection, and the collection that it leaves. -/
def run {β : Type} (x : ExceptT SearchError (StateM (Collection α)) β) (c : Collection α) :
    Except SearchError β × Collection α :=
  StateT.run (ExceptT.run x) c

/-- One page of the sorted matches, without a store in between. -/
def page [Key C] (S : Schema α O C) (today : Date) (c : Collection α) (f : Filter O C)
    (number size : Nat) : Except SearchError (ResultPage α O C) := do
  let window ← (Window.ofPage number size).mapError .input
  let p ← (f.compile S today).mapError .input
  let found := c.values.filter (p.holds S)
  pure ⟨window.apply (S.sort (f.effectiveOrder S) found), found.length, number, size, f⟩

/-- What a search answers after a history of saves, all of it asked of one store that is empty at
first. -/
def answer [Key C] (S : Schema α O C) (today : Date) (ordering : Bool) (saved : List α)
    (f : Filter O C) (number size : Nat) : Except SearchError (ResultPage α O C) :=
  let s := store S today ordering
  (run (do s.saveAll saved; s.findPage S today f number size) .empty).1

section

variable [Key C] (S : Schema α O C) (today : Date) (ordering : Bool)

theorem run_bind {β γ : Type} (x : ExceptT SearchError (StateM (Collection α)) β)
    (k : β → ExceptT SearchError (StateM (Collection α)) γ) (c : Collection α) :
    run (x >>= k) c = match run x c with
      | (.ok b, c') => run (k b) c'
      | (.error e, c') => (.error e, c') := by
  simp only [run, ExceptT.run_bind, StateT.run_bind]
  rcases h : StateT.run x.run c with ⟨_ | _, c'⟩ <;> rfl

theorem run_saveAll (saved : List α) (c : Collection α) :
    run ((store S today ordering).saveAll saved) c = (.ok ⟨⟩, saved.foldl (save S) c) := by
  induction saved generalizing c with
  | nil => rfl
  | cons a saved ih =>
    have hsave : run ((store S today ordering).save a) c = (.ok a, c.save S a) := rfl
    rw [Store.saveAll, run_bind, hsave]
    exact ih (c.save S a)

theorem run_check {β : Type} (x : Except InputError β) (c : Collection α) :
    run (Store.check x) c = (x.mapError .input, c) := by
  cases x <;> rfl

theorem run_ask {β : Type} (answer : StateM (Collection α) (Except StoreError β))
    (c : Collection α) :
    run (Store.ask answer) c = ((answer.run c).1.mapError .store, (answer.run c).2) := by
  rcases h : answer.run c with ⟨_ | _, c'⟩ <;>
    simp only [run, Store.ask, ExceptT.run_mk, StateT.run_bind, h] <;> rfl

theorem run_select (rs : List (Requirement C)) (c : Collection α) :
    run (Store.ask ((store S today ordering).select rs)) c =
      ((c.select S today rs).mapError .store, c) := run_ask _ c

theorem run_selectWindow (rs : List (Requirement C)) (order : SortOrder O) (window : Window)
    (c : Collection α) :
    run (Store.ask ((store S today ordering).selectWindow rs order window)) c =
      ((if ordering then (c.selectWindow S today rs order window).map some
        else .ok none).mapError .store, c) := by
  rw [run_ask]
  cases ordering <;> rfl

variable {S today} in
theorem select_of_compile {f : Filter O C} {p : Predicate C} (hp : f.compile S today = .ok p)
    (c : Collection α) :
    c.select S today f.requirements = .ok (c.values.filter (p.holds S)) := by
  rw [Filter.compile] at hp
  rw [select, hp]

theorem run_findPage (f : Filter O C) (number size : Nat) (c : Collection α) :
    run ((store S today ordering).findPage S today f number size) c =
      (c.page S today f number size, c) := by
  rw [Store.findPage, run_bind, run_check, page]
  cases Window.ofPage number size with
  | error e => rfl
  | ok window =>
    simp only [Except.mapError, run_bind, run_check, Filter.validate]
    cases hp : f.compile S today with
    | error e => rfl
    | ok p =>
      simp only [Except.map, run_selectWindow, selectWindow, select_of_compile hp]
      -- Either way, the same window is cut out of the same sorted matches.
      cases ordering with
      | false =>
        simp only [Bool.false_eq_true, if_false, Except.mapError, run_bind, run_select,
          select_of_compile hp]
        rfl
      | true => rfl

theorem answer_eq_page (saved : List α) (f : Filter O C) (number size : Nat) :
    answer S today ordering saved f number size =
      (ofHistory S saved).page S today f number size := by
  rw [answer, run_bind, run_saveAll]
  exact congrArg Prod.fst (run_findPage S today ordering f number size (ofHistory S saved))

variable {S today} {saved : List α} {f : Filter O C} {number size : Nat}

theorem page_of_window {p : Predicate C} (hp : f.compile S today = .ok p) {found : List α}
    (h : Listing S today saved f found) {window : Window}
    (hwindow : Window.ofPage number size = .ok window) :
    (ofHistory S saved).page S today f number size =
      .ok ⟨window.apply found, found.length, number, size, f⟩ := by
  let matching := (S.remaining saved).filter (p.holds S)
  have hfound : found = S.sort (f.effectiveOrder S) matching := h.unique (listing_sort hp)
  have hlength : found.length = matching.length := by
    rw [hfound]
    exact List.length_mergeSort matching
  rw [page, hwindow, hp, values_ofHistory, hlength, hfound]
  rfl

theorem page_of_listing {p : Predicate C} (hp : f.compile S today = .ok p) {found : List α}
    (h : Listing S today saved f found) (hfits : (S.remaining saved).length ≤ Number.maxNat64)
    (hnumber : 1 ≤ number) (hsize : 1 ≤ size) :
    (ofHistory S saved).page S today f number size =
      .ok ⟨(found.drop ((number - 1) * size)).take size, found.length, number, size, f⟩ := by
  have hle : found.length ≤ Number.maxNat64 := Nat.le_trans h.length_le hfits
  rw [page_of_window hp h (Window.ofPage_of_pos hnumber hsize), Window.apply_saturated hle]

theorem page_of_compile_error {e : InputError} (he : f.compile S today = .error e)
    (hnumber : 1 ≤ number) (hsize : 1 ≤ size) (c : Collection α) :
    c.page S today f number size = .error (.input e) := by
  rw [page, Window.ofPage_of_pos hnumber hsize, he]
  rfl

variable (S today saved f)

/-- After any history, with either way of ordering, a search answers with a slice of the one
listing of the history and the filter, in exact numbers as long as a 64-bit number counts the
entities; what it refuses it refuses with one and the same fault. -/
theorem answer_eq_slice_of_listing :
    (∀ p, f.compile S today = .ok p → (S.remaining saved).length ≤ Number.maxNat64 →
      ∃ found, (∀ l, Listing S today saved f l ↔ l = found) ∧
        ∀ ordering number size, 1 ≤ number → 1 ≤ size →
          answer S today ordering saved f number size =
            .ok ⟨(found.drop ((number - 1) * size)).take size, found.length, number, size, f⟩) ∧
    (∀ ordering size,
      answer S today ordering saved f 0 size = .error (.input (.pageNumber 0))) ∧
    (∀ ordering number, 1 ≤ number →
      answer S today ordering saved f number 0 = .error (.input (.pageSize 0))) ∧
    (∀ e, f.compile S today = .error e → ∀ ordering number size, 1 ≤ number → 1 ≤ size →
      answer S today ordering saved f number size = .error (.input e)) := by
  simp only [answer_eq_page]
  refine ⟨?_, ?_, ?_, ?_⟩
  · intro p hp hfits
    have hlisting : Listing S today saved f _ := listing_sort hp
    refine ⟨_, fun l => ⟨fun h => h.unique hlisting, ?_⟩, ?_⟩
    · intro h
      rw [h]
      exact hlisting
    · intro _ number size hnumber hsize
      exact page_of_listing hp hlisting hfits hnumber hsize
  · intro _ size
    rw [page, Window.ofPage_zero_left]
    rfl
  · intro _ number hnumber
    rw [page, Window.ofPage_zero_right hnumber]
    rfl
  · intro e he _ number size hnumber hsize
    exact page_of_compile_error he hnumber hsize _

/-- The tag `cat` is saved twice and keeps its first place among the tags used as often. -/
theorem answer_eq_slice_of_listing_tags :
    let today : Date := ⟨2024, 6, 15⟩
    let tag (id : BitVec 128) (name : String) (usages : Int) : Tag :=
      ⟨⟨id⟩, [name], "animal", usages, ⟨0, 0, by decide⟩, none⟩
    let saved := [tag 1 "cat" 9, tag 2 "dog" 4, tag 3 "cow" 4, tag 1 "cat" 4, tag 4 "crow" 5]
    let f : Filter TagSort TagField := ⟨[⟨.name, .plain "c*", false⟩], .empty⟩
    ∃ p, f.compile Tag.schema today = .ok p ∧
      (Tag.schema.remaining saved).length ≤ Number.maxNat64 ∧
      ∃ found, (∀ l, Listing Tag.schema today saved f l ↔ l = found) ∧
        ∀ ordering, answer Tag.schema today ordering saved f 2 1 =
          .ok ⟨(found.drop 1).take 1, found.length, 2, 1, f⟩ := by
  intro today tag saved f
  have hp : f.compile Tag.schema today =
      .ok [⟨.name, false, [.pattern [.literal 'c', .run]]⟩] := rfl
  have hfits : (Tag.schema.remaining saved).length ≤ Number.maxNat64 := by decide
  refine ⟨_, hp, hfits, ?_⟩
  obtain ⟨found, hfound, hanswer⟩ :=
    (answer_eq_slice_of_listing Tag.schema today saved f).1 _ hp hfits
  exact ⟨found, hfound, fun ordering => hanswer ordering 2 1 (by decide) (by decide)⟩

example (ordering : Bool) :
    let tag (id : BitVec 128) (name : String) (usages : Int) : Tag :=
      ⟨⟨id⟩, [name], "animal", usages, ⟨0, 0, by decide⟩, none⟩
    let saved := [tag 1 "cat" 9, tag 2 "dog" 4, tag 3 "cow" 4, tag 1 "cat" 4, tag 4 "crow" 5]
    (answer Tag.schema ⟨2024, 6, 15⟩ ordering saved
      ⟨[⟨.name, .plain "c*", false⟩], .empty⟩ 1 9).map (·.entities) =
        .ok [tag 4 "crow" 5, tag 1 "cat" 4, tag 3 "cow" 4] := by
  cases ordering <;> cbv

end

end Collection

end EntitySearch
