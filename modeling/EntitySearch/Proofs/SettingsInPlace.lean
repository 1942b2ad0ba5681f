import EntitySearch.Proofs.Merging
import EntitySearch.Proofs.Settings

/-!
Settings that are changed in place. All changes are checked before the first of them is made, so
that a call makes all of them or none (`Settings.call_eq`), two calls in a row are one call with the
later changes put over the earlier ones (`Settings.call_call`), and no run of calls takes the page
length out of its bounds (`Settings.InRange.callAll`).
-/

namespace EntitySearch

/-- A known name with a value of the type of its setting. -/
inductive SettingChange.Suits : String → Json → Prop
  | switch (w : Switch) (on : Bool) : Suits (SettingKey.switch w).name (.boolean on)
  | postsPerPage {n : Nat} (hpos : 1 ≤ n) (hmax : n ≤ maxPostsPerPage) :
    Suits SettingKey.postsPerPage.name (.integer n)

theorem SettingChange.suits_iff {name : String} {j : Json} :
    Suits name j ↔ ∀ e, ¬ Misfit name j e := by
  simp only [← exists_read_eq_ok_iff, read_eq_ok_iff]
  constructor
  · intro h
    cases h with
    | switch w on => exact ⟨.switch w on, trivial, rfl⟩
    | postsPerPage hpos hmax => exact ⟨.postsPerPage _, ⟨hpos, hmax⟩, rfl⟩
  · intro h
    obtain ⟨change, hrange, hentry⟩ := h
    obtain ⟨rfl, rfl⟩ := Prod.mk.inj hentry
    cases change with
    | switch w on => exact .switch w on
    | postsPerPage n => exact .postsPerPage hrange.1 hrange.2

theorem SettingChange.Suits.exists_nat {j : Json} (h : Suits SettingKey.postsPerPage.name j) :
    ∃ n : Nat, j = .integer n ∧ 1 ≤ n ∧ n ≤ maxPostsPerPage := by
  generalize hname : SettingKey.postsPerPage.name = name at h
  cases h with
  | switch w on =>
    have hkey : SettingKey.postsPerPage = .switch w := Key.name_injective _ _ hname
    contradiction
  | @postsPerPage n hpos hmax => exact ⟨n, rfl, hpos, hmax⟩

namespace Settings

/-- Every change has a known name and a value of its type. -/
def EachSuits (changes : InsertionMap String Json) : Prop :=
  ∀ name j, changes.get? name = some j → SettingChange.Suits name j

/-- A page has from 1 to 100 posts. -/
def InRange (s : Settings) : Prop := 1 ≤ s.postsPerPage ∧ s.postsPerPage ≤ maxPostsPerPage

/-- Makes changes in place, one after another. -/
def setAll (checked : List SettingChange) : ExceptT InputError (StateM Settings) PUnit :=
  checked.forM fun change => modify fun s => s.set change

/-- Makes changes once all of them have been checked. -/
def update (changes : InsertionMap String Json) : ExceptT InputError (StateM Settings) PUnit := do
  let entries := changes.entries.mergeSort fun a b => (compare a.1 b.1).isLE
  let checked ← ExceptT.mk (pure (entries.mapM fun e => SettingChange.read e.1 e.2))
  setAll checked

/-- The answer of an action on settings, and the settings that it leaves. -/
def run (x : ExceptT InputError (StateM Settings) PUnit) (s : Settings) :
    Except InputError PUnit × Settings :=
  StateT.run (ExceptT.run x) s

def call (changes : InsertionMap String Json) : Settings → Except InputError PUnit × Settings :=
  run (update changes)

/-- The settings after calls in their sequence, whatever each of them answers. -/
def callAll (calls : List (InsertionMap String Json)) (s : Settings) : Settings :=
  calls.foldl (fun s changes => (call changes s).2) s

theorem run_setAll (checked : List SettingChange) (s : Settings) :
    run (setAll checked) s = (.ok ⟨⟩, checked.foldl set s) := by
  induction checked generalizing s with
  | nil => rfl
  | cons change checked ih => exact ih (s.set change)

variable {changes more : InsertionMap String Json} {s s' : Settings}

/-- A call has the outcome of all changes taken together, and leaves the settings as they are if
that is a fault. -/
theorem call_eq (changes : InsertionMap String Json) (s : Settings) :
    call changes s = match s.apply changes with
      | .ok s' => (.ok ⟨⟩, s')
      | .error e => (.error e, s) := by
  rw [apply_eq_map, call, update]
  cases (changes.entries.mergeSort fun a b => (compare a.1 b.1).isLE).mapM
    fun e => SettingChange.read e.1 e.2 with
  | ok checked => exact run_setAll checked s
  | error e => rfl

theorem eachSuits_iff : EachSuits changes ↔ AllSuit changes := by
  simp only [EachSuits, AllSuit, SettingChange.suits_iff]

theorem eachSuits_singleton {name : String} {j : Json} (h : SettingChange.Suits name j) :
    EachSuits (.ofList [(name, j)]) := by
  intro name' j' hj
  have hmem : (name', j') ∈ [(name, j)] := (InsertionMap.get?_eq_some_iff _ _ _).1 hj
  obtain ⟨rfl, rfl⟩ := Prod.mk.inj (List.mem_singleton.1 hmem)
  exact h

theorem call_eq_ok_iff :
    call changes s = (.ok ⟨⟩, s') ↔ EachSuits changes ∧ Changed changes s s' := by
  rw [eachSuits_iff, ← apply_eq_ok_iff, call_eq]
  cases s.apply changes <;> simp

theorem exists_call_eq_ok (s : Settings) (h : EachSuits changes) :
    ∃ s', call changes s = (.ok ⟨⟩, s') ∧ Changed changes s s' := by
  obtain ⟨s', hs'⟩ := exists_apply_eq_ok_iff.2 (eachSuits_iff.1 h)
  refine ⟨s', ?_, changed_of_apply_eq_ok hs'⟩
  rw [call_eq, hs']

theorem exists_call_eq_error (s : Settings) (h : ¬ EachSuits changes) :
    ∃ e, call changes s = (.error e, s) ∧ FirstMisfit changes e := by
  rw [call_eq]
  cases happly : s.apply changes with
  | ok s' => exact absurd (eachSuits_iff.2 (exists_apply_eq_ok_iff.1 ⟨s', happly⟩)) h
  | error e => exact ⟨e, rfl, apply_eq_error_iff.1 happly⟩

/-- Changes that suit still do so with others put over them that do. -/
theorem EachSuits.insertAll (h : EachSuits changes) (hmore : EachSuits more) :
    EachSuits (changes.insertAll more.entries) := by
  intro name j hj
  rw [InsertionMap.get?_insertAll_entries, Option.or_eq_some_iff] at hj
  rcases hj with hj | ⟨-, hj⟩
  · exact hmore name j hj
  · exact h name j hj

theorem call_call (s : Settings) (h : EachSuits changes) (hmore : EachSuits more) :
    call more (call changes s).2 = call (changes.insertAll more.entries) s := by
  obtain ⟨s₁, hcall₁, hchanged₁⟩ := exists_call_eq_ok s h
  obtain ⟨s₂, hcall₂, hchanged₂⟩ := exists_call_eq_ok s₁ hmore
  rw [hcall₁, hcall₂, eq_comm, call_eq_ok_iff]
  -- A setting has what the later changes give it, else what the earlier ones do, else what it had.
  refine ⟨h.insertAll hmore, fun k => ?_⟩
  rw [hchanged₂ k, hchanged₁ k, InsertionMap.get?_insertAll_entries]
  cases more.get? (Key.name k) <;> rfl

/-- One call keeps the page length in its bounds: it is as before or as an admissible change says. -/
theorem InRange.call (hs : s.InRange) (changes : InsertionMap String Json) :
    (call changes s).2.InRange := by
  by_cases h : EachSuits changes
  · obtain ⟨s', hcall, hchanged⟩ := exists_call_eq_ok s h
    have hlength : Json.integer s'.postsPerPage =
        (changes.get? (Key.name SettingKey.postsPerPage)).getD (.integer s.postsPerPage) :=
      hchanged .postsPerPage
    rw [hcall]
    cases hget : changes.get? (Key.name SettingKey.postsPerPage) with
    | none =>
      -- No entry names the page length, so that it has not moved.
      rw [hget] at hlength
      have hsame : s'.postsPerPage = s.postsPerPage := Int.ofNat.inj (Json.integer.inj hlength)
      rwa [InRange, hsame]
    | some j =>
      -- What an entry that suits gives it is in the bounds, wherever it was before.
      obtain ⟨n, rfl, hpos, hmax⟩ := (h _ j hget).exists_nat
      rw [hget] at hlength
      have hset : s'.postsPerPage = n := Int.ofNat.inj (Json.integer.inj hlength)
      rw [InRange, hset]
      exact ⟨hpos, hmax⟩
  · obtain ⟨e, hcall, -⟩ := exists_call_eq_error s h
    rw [hcall]
    exact hs

theorem InRange.callAll (hs : s.InRange) (calls : List (InsertionMap String Json)) :
    (callAll calls s).InRange := by
  induction calls generalizing s with
  | nil => exact hs
  | cons changes calls ih => exact ih (hs.call changes)

/-- Changes with known names and values of their types are all made, and nothing else is changed;
otherwise the least name among those of misfits decides the fault, and all settings stay as they
are. Calls that succeed in a row are one call with the later changes put over the earlier ones, and
a page length in its bounds stays there in any run of calls. What a call comes to is what all its
changes taken together do. -/
theorem call_allOrNothing (changes : InsertionMap String Json) (s : Settings) :
    s.apply changes = (call changes s).1.map (fun _ => (call changes s).2) ∧
    (EachSuits changes → ∃ s', call changes s = (.ok ⟨⟩, s') ∧
      ∀ k : SettingKey, s'.value k = (changes.get? (Key.name k)).getD (s.value k)) ∧
    (¬ EachSuits changes → ∃ e, call changes s = (.error e, s) ∧ FirstMisfit changes e) ∧
    (∀ more, EachSuits changes → EachSuits more →
      call more (call changes s).2 = call (changes.insertAll more.entries) s) ∧
    ∀ calls, s.InRange → (callAll calls s).InRange := by
  refine ⟨?_, exists_call_eq_ok s, exists_call_eq_error s, fun more => call_call s,
    fun calls hs => hs.callAll calls⟩
  rw [call_eq]
  cases s.apply changes <;> rfl

/-- Of two faults the one under `posts_per_page` counts, and the page length that was set before the
refused call is still there after it. -/
theorem call_allOrNothing_pageLength :
    let long : InsertionMap String Json := .ofList [("posts_per_page", .integer 25)]
    let tags : InsertionMap String Json := .ofList [("show_tags", .boolean true)]
    let faulty : InsertionMap String Json :=
      .ofList [("theme", .string "dark"), ("posts_per_page", .integer 101)]
    EachSuits long ∧ EachSuits tags ∧ ¬ EachSuits faulty ∧ standard.InRange ∧
      call tags (call long standard).2 = (.ok ⟨⟩, { showTags := true, postsPerPage := 25 }) ∧
      call faulty standard =
        (.error (.settingValue "posts_per_page" .outOfRange), standard) ∧
      (callAll [long, faulty, tags] standard).InRange := by
  intro long tags faulty
  have hlong : EachSuits long :=
    eachSuits_singleton (.postsPerPage (n := 25) (by decide) (by decide))
  have htags : EachSuits tags := eachSuits_singleton (.switch .showTags true)
  have hlength : SettingChange.Misfit "posts_per_page" (.integer 101)
      (.settingValue "posts_per_page" .outOfRange) :=
    .outOfRange (n := 101) (by decide) (by decide)
  have hfaulty : ¬ EachSuits faulty := by
    intro h
    exact SettingChange.suits_iff.1 (h "posts_per_page" (.integer 101) rfl) _ hlength
  have hrange : standard.InRange := by
    constructor <;> decide
  obtain ⟨-, -, -, hrow, hbounds⟩ := call_allOrNothing long standard
  obtain ⟨-, -, hrefused, -⟩ := call_allOrNothing faulty standard
  have hfirst : FirstMisfit faulty (.settingValue "posts_per_page" .outOfRange) := by
    refine ⟨"posts_per_page", .integer 101, rfl, hlength, ?_⟩
    intro name j hj hlt
    have hmem : (name, j) ∈ [("theme", Json.string "dark"), ("posts_per_page", .integer 101)] :=
      (faulty.get?_eq_some_iff name j).1 hj
    rcases List.mem_cons.1 hmem with h | h
    · obtain ⟨rfl, rfl⟩ := Prod.mk.inj h
      exact absurd hlt (by decide)
    · obtain ⟨rfl, rfl⟩ := Prod.mk.inj (List.mem_singleton.1 h)
      exact absurd hlt (by decide)
  obtain ⟨e, hcall, he⟩ := hrefused hfaulty
  obtain rfl : e = .settingValue "posts_per_page" .outOfRange :=
    Except.error.inj ((apply_eq_error_iff (s := standard).2 he).symm.trans
      (apply_eq_error_iff.2 hfirst))
  refine ⟨hlong, htags, hfaulty, hrange, ?_, hcall, hbounds _ hrange⟩
  rw [hrow tags hlong htags, call_eq_ok_iff]
  refine ⟨hlong.insertAll htags, ?_⟩
  intro k
  cases k with
  | switch w => cases w <;> rfl
  | postsPerPage => rfl

end Settings

end EntitySearch
