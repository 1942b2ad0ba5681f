import EntitySearch.Settings
import EntitySearch.Proofs.Insertion
import EntitySearch.Proofs.Outcome
import Mathlib.Data.List.Forall2
import Mathlib.Data.List.Nodup

/-!
Changes of settings. Changes that all suit are made together: each setting is then as the change
under its name says, or as before where there is none (`changed_of_apply_eq_ok`). Otherwise the
change with the least name among those that do not suit decides the fault (`apply_eq_error_iff`).
-/

namespace EntitySearch

open Std

theorem Json.nat64?_eq_some_iff {j : Json} {n : Nat} :
    j.nat64? = some n ↔ n ≤ Number.maxNat64 ∧ j = .integer n := by
  cases j with
  | integer i =>
    simp only [nat64?, natUpTo?, integer?, Option.map_eq_some_iff, Option.filter_eq_some_iff,
      Option.some.injEq, Bool.and_eq_true, decide_eq_true_eq, integer.injEq]
    constructor
    · intro h
      obtain ⟨i', ⟨rfl, hi⟩, hn⟩ := h
      omega
    · intro h
      exact ⟨i, ⟨rfl, by omega⟩, by omega⟩
  | _ => simp [nat64?, natUpTo?, integer?]

theorem Json.boolean?_eq_some_iff {j : Json} {b : Bool} :
    j.boolean? = some b ↔ j = .boolean b := by
  cases j <;> simp [boolean?]

theorem SettingKey.read_eq_ok_iff {name : String} {k : SettingKey} :
    SettingKey.read name = .ok k ↔ Key.name k = name := by
  rw [SettingKey.read, ← Key.find?_eq_some_iff]
  cases Key.find? (K := SettingKey) name <;> simp

theorem SettingKey.read_eq_error {name : String} (h : ∀ k : SettingKey, Key.name k ≠ name) :
    SettingKey.read name = .error (.unknownSetting name) := by
  have hnone : Key.find? (K := SettingKey) name = none :=
    Option.eq_none_iff_forall_ne_some.2 fun k hk => h k (Key.find?_eq_some_iff.1 hk)
  rw [SettingKey.read, hnone]

namespace SettingChange

def key : SettingChange → SettingKey
  | .switch w _ => .switch w
  | .postsPerPage _ => .postsPerPage

/-- The value that a change gives its setting. -/
def json : SettingChange → Json
  | .switch _ on => .boolean on
  | .postsPerPage n => .integer n

/-- A change the way it is written. -/
def entry (change : SettingChange) : String × Json := (Key.name change.key, change.json)

/-- A page has from 1 to 100 posts. -/
def InRange : SettingChange → Prop
  | .switch _ _ => True
  | .postsPerPage n => 1 ≤ n ∧ n ≤ maxPostsPerPage

instance : DecidablePred InRange
  | .switch _ _ => inferInstanceAs (Decidable True)
  | .postsPerPage n => inferInstanceAs (Decidable (1 ≤ n ∧ n ≤ maxPostsPerPage))

/-- What suits no setting, with the fault that it is. -/
inductive Misfit : String → Json → InputError → Prop
  | unknown {name : String} (j : Json) (hname : ∀ k : SettingKey, Key.name k ≠ name) :
    Misfit name j (.unknownSetting name)
  | notBoolean (w : Switch) {j : Json} (hj : ∀ on, j ≠ .boolean on) :
    Misfit (SettingKey.switch w).name j (.settingValue (SettingKey.switch w).name .notBoolean)
  | notPositiveInteger {j : Json} (hj : ∀ n : Nat, n ≤ Number.maxNat64 → j ≠ .integer n) :
    Misfit SettingKey.postsPerPage.name j
      (.settingValue SettingKey.postsPerPage.name .notPositiveInteger)
  | outOfRange {n : Nat} (hfits : n ≤ Number.maxNat64) (hn : n = 0 ∨ maxPostsPerPage < n) :
    Misfit SettingKey.postsPerPage.name (.integer n)
      (.settingValue SettingKey.postsPerPage.name .outOfRange)

theorem entry_or_misfit (name : String) (j : Json) :
    (∃ change : SettingChange, change.InRange ∧ change.entry = (name, j)) ∨
      ∃ e, Misfit name j e := by
  by_cases hname : ∃ k : SettingKey, Key.name k = name
  · obtain ⟨k, rfl⟩ := hname
    cases k with
    | switch w =>
      by_cases hj : ∃ on, j = .boolean on
      · obtain ⟨on, rfl⟩ := hj
        exact .inl ⟨.switch w on, trivial, rfl⟩
      · exact .inr ⟨_, .notBoolean w (not_exists.1 hj)⟩
    | postsPerPage =>
      by_cases hj : ∃ n : Nat, n ≤ Number.maxNat64 ∧ j = .integer n
      · obtain ⟨n, hfits, rfl⟩ := hj
        by_cases hn : n = 0 ∨ maxPostsPerPage < n
        · exact .inr ⟨_, .outOfRange hfits hn⟩
        · exact .inl ⟨.postsPerPage n, by rw [InRange]; omega, rfl⟩
      · exact .inr ⟨_, .notPositiveInteger fun n hfits h => hj ⟨n, hfits, h⟩⟩
  · exact .inr ⟨_, .unknown j (not_exists.1 hname)⟩

theorem read_switch (w : Switch) (j : Json) :
    read (SettingKey.switch w).name j = match j.boolean? with
      | some on => .ok (.switch w on)
      | none => .error (.settingValue (SettingKey.switch w).name .notBoolean) := by
  have hkey : SettingKey.read (SettingKey.switch w).name = .ok (.switch w) :=
    SettingKey.read_eq_ok_iff.2 rfl
  rw [read, hkey]
  rfl

theorem read_postsPerPage (j : Json) :
    read SettingKey.postsPerPage.name j = match j.nat64? with
      | some n =>
        if n = 0 ∨ maxPostsPerPage < n then
          .error (.settingValue SettingKey.postsPerPage.name .outOfRange)
        else .ok (.postsPerPage n)
      | none => .error (.settingValue SettingKey.postsPerPage.name .notPositiveInteger) := by
  have hkey : SettingKey.read SettingKey.postsPerPage.name = .ok .postsPerPage :=
    SettingKey.read_eq_ok_iff.2 rfl
  rw [read, hkey]
  rfl

theorem read_entry {change : SettingChange} (h : change.InRange) :
    read change.entry.1 change.entry.2 = .ok change := by
  cases change with
  | switch w on => exact read_switch w (.boolean on)
  | postsPerPage n =>
    obtain ⟨hpos, hmax⟩ := h
    have hfits : n ≤ Number.maxNat64 := Nat.le_trans hmax (by decide)
    have hnat : (Json.integer n).nat64? = some n := Json.nat64?_eq_some_iff.2 ⟨hfits, rfl⟩
    have hn : ¬ (n = 0 ∨ maxPostsPerPage < n) := by omega
    change read SettingKey.postsPerPage.name (.integer n) = .ok (.postsPerPage n)
    rw [read_postsPerPage, hnat]
    exact if_neg hn

theorem read_of_misfit {name : String} {j : Json} {e : InputError} (h : Misfit name j e) :
    read name j = .error e := by
  cases h with
  | unknown _ hname =>
    rw [read, SettingKey.read_eq_error hname]
    rfl
  | notBoolean w hj =>
    have hnone : j.boolean? = none := Option.eq_none_iff_forall_ne_some.2 fun on h =>
      hj on (Json.boolean?_eq_some_iff.1 h)
    rw [read_switch, hnone]
  | notPositiveInteger hj =>
    have hnone : j.nat64? = none := Option.eq_none_iff_forall_ne_some.2 fun n h =>
      hj n (Json.nat64?_eq_some_iff.1 h).1 (Json.nat64?_eq_some_iff.1 h).2
    rw [read_postsPerPage, hnone]
  | outOfRange hfits hn =>
    rw [read_postsPerPage, Json.nat64?_eq_some_iff.2 ⟨hfits, rfl⟩]
    exact if_pos hn

theorem read_eq_ok_iff {name : String} {j : Json} {change : SettingChange} :
    read name j = .ok change ↔ change.InRange ∧ change.entry = (name, j) := by
  constructor
  · intro h
    rcases entry_or_misfit name j with ⟨change', hrange, hentry⟩ | ⟨e, he⟩
    · have hread : read name j = .ok change' := by simpa [hentry] using read_entry hrange
      obtain rfl : change' = change := Except.ok.inj (hread.symm.trans h)
      exact ⟨hrange, hentry⟩
    · rw [read_of_misfit he] at h
      contradiction
  · intro h
    obtain ⟨hrange, hentry⟩ := h
    simpa [hentry] using read_entry hrange

theorem exists_read_eq_ok_iff {name : String} {j : Json} :
    (∃ change, read name j = .ok change) ↔ ∀ e, ¬ Misfit name j e := by
  constructor
  · intro h e he
    obtain ⟨change, hchange⟩ := h
    rw [read_of_misfit he] at hchange
    contradiction
  · intro h
    obtain ⟨change, hchange⟩ := (entry_or_misfit name j).resolve_right (not_exists.2 h)
    exact ⟨change, read_eq_ok_iff.2 hchange⟩

theorem read_eq_error_iff {name : String} {j : Json} {e : InputError} :
    read name j = .error e ↔ Misfit name j e := by
  refine ⟨fun h => ?_, read_of_misfit⟩
  rcases entry_or_misfit name j with ⟨change, hrange, hentry⟩ | ⟨e', he'⟩
  · rw [read_eq_ok_iff.2 ⟨hrange, hentry⟩] at h
    contradiction
  · obtain rfl : e' = e := Except.error.inj ((read_of_misfit he').symm.trans h)
    exact he'

end SettingChange

namespace Settings

/-- What a setting is set to. -/
def value (s : Settings) : SettingKey → Json
  | .switch .endlessScrolling => .boolean s.endlessScrolling
  | .switch .showTags => .boolean s.showTags
  | .switch .hideDownvoted => .boolean s.hideDownvoted
  | .switch .keepUploadFlags => .boolean s.keepUploadFlags
  | .switch .upscaleSmallPosts => .boolean s.upscaleSmallPosts
  | .postsPerPage => .integer s.postsPerPage

theorem eq_of_value_eq {s s' : Settings} (h : ∀ k, s.value k = s'.value k) : s = s' := by
  have hswitch (w : Switch) : s.value (.switch w) = s'.value (.switch w) := h (.switch w)
  have hlength : (s.postsPerPage : Int) = s'.postsPerPage := Json.integer.inj (h .postsPerPage)
  obtain ⟨_, _, _, _, _, _⟩ := s
  obtain ⟨_, _, _, _, _, _⟩ := s'
  obtain rfl := Json.boolean.inj (hswitch .endlessScrolling)
  obtain rfl := Json.boolean.inj (hswitch .showTags)
  obtain rfl := Json.boolean.inj (hswitch .hideDownvoted)
  obtain rfl := Json.boolean.inj (hswitch .keepUploadFlags)
  obtain rfl := Json.boolean.inj (hswitch .upscaleSmallPosts)
  obtain rfl := Int.ofNat.inj hlength
  rfl

theorem value_set (s : Settings) (change : SettingChange) (k : SettingKey) :
    (s.set change).value k = if change.key = k then change.json else s.value k := by
  cases change with
  | switch w on => cases w <;> rcases k with ⟨⟨⟩⟩ | _ <;> rfl
  | postsPerPage n => rcases k with ⟨⟨⟩⟩ | _ <;> rfl

theorem value_foldl_set_of_not_mem {l : List SettingChange} {k : SettingKey}
    (h : k ∉ l.map SettingChange.key) (s : Settings) : (l.foldl set s).value k = s.value k := by
  induction l generalizing s with
  | nil => rfl
  | cons change l ih =>
    obtain ⟨hk, hl⟩ := List.ne_and_not_mem_of_not_mem_cons h
    rw [List.foldl_cons, ih hl, value_set, if_neg (Ne.symm hk)]

theorem value_foldl_set_of_mem {l : List SettingChange} (hnodup : (l.map SettingChange.key).Nodup)
    {change : SettingChange} (h : change ∈ l) (s : Settings) :
    (l.foldl set s).value change.key = change.json := by
  induction l generalizing s with
  | nil => contradiction
  | cons first l ih =>
    obtain ⟨hfirst, hnodup⟩ := List.nodup_cons.1 hnodup
    rw [List.foldl_cons]
    rcases List.mem_cons.1 h with rfl | h
    · -- No later change has the same key.
      rw [value_foldl_set_of_not_mem hfirst, value_set, if_pos rfl]
    · exact ih hnodup h (s.set first)

variable (changes : InsertionMap String Json)

/-- The settings `s'` are `s` with the changes: a setting is as the change under its name says, or
as before if there is none. -/
def Changed (s s' : Settings) : Prop :=
  ∀ k : SettingKey, s'.value k = (changes.get? (Key.name k)).getD (s.value k)

/-- No change is a misfit. -/
def AllSuit : Prop :=
  ∀ name j, changes.get? name = some j → ∀ e, ¬ SettingChange.Misfit name j e

/-- The fault of the change with the least name among those that are misfits. -/
def FirstMisfit (e : InputError) : Prop :=
  ∃ name j, changes.get? name = some j ∧ SettingChange.Misfit name j e ∧
    ∀ name' j', changes.get? name' = some j' → compare name' name = .lt →
      ∀ e', ¬ SettingChange.Misfit name' j' e'

variable {changes}

theorem apply_eq_map (s : Settings) :
    s.apply changes = ((changes.entries.mergeSort fun a b => (compare a.1 b.1).isLE).mapM
      fun e => SettingChange.read e.1 e.2).map fun checked => checked.foldl set s := rfl

/-- One change by itself. -/
theorem apply_entry {change : SettingChange} (h : change.InRange) (s : Settings) :
    s.apply (.ofList [change.entry]) = .ok (s.set change) := by
  have hsorted : ((InsertionMap.ofList [change.entry]).entries.mergeSort fun a b =>
      (compare a.1 b.1).isLE) = [change.entry] := List.mergeSort_singleton _
  rw [apply_eq_map, hsorted, List.mapM_cons, SettingChange.read_entry h]
  rfl

/-- Changes that are made together are those that are asked for, in some sequence. -/
theorem exists_perm_of_apply_eq_ok {s s' : Settings} (h : s.apply changes = .ok s') :
    ∃ checked : List SettingChange, (checked.map SettingChange.entry).Perm changes.entries ∧
      s' = checked.foldl set s := by
  rw [apply_eq_map] at h
  obtain ⟨checked, hread, rfl⟩ := Outcome.map_eq_ok_iff.1 h
  refine ⟨checked, ?_, rfl⟩
  have hentries : (changes.entries.mergeSort fun a b => (compare a.1 b.1).isLE) =
      checked.map SettingChange.entry := by
    rw [← List.forall₂_eq_eq_eq, List.forall₂_map_right_iff]
    refine (Outcome.mapM_eq_ok_iff.1 hread).imp ?_
    intro e change hchange
    exact (SettingChange.read_eq_ok_iff.1 hchange).2.symm
  rw [← hentries]
  exact List.mergeSort_perm _ _

/-- No name is asked for twice, and names tell the keys apart. -/
theorem nodup_keys_of_perm {checked : List SettingChange}
    (h : (checked.map SettingChange.entry).Perm changes.entries) :
    (checked.map SettingChange.key).Nodup := by
  have hnames : ((checked.map SettingChange.entry).map Prod.fst).Nodup :=
    (h.map Prod.fst).nodup_iff.2 changes.nodup_keys
  apply List.Nodup.of_map Key.name
  rwa [List.map_map] at hnames ⊢

theorem changed_of_apply_eq_ok {s s' : Settings} (h : s.apply changes = .ok s') :
    Changed changes s s' := by
  intro k
  obtain ⟨checked, hperm, rfl⟩ := exists_perm_of_apply_eq_ok h
  have hnodup : (checked.map SettingChange.key).Nodup := nodup_keys_of_perm hperm
  cases hget : changes.get? (Key.name k) with
  | some j =>
    have hmem : (Key.name k, j) ∈ checked.map SettingChange.entry :=
      hperm.mem_iff.2 ((changes.get?_eq_some_iff _ _).1 hget)
    obtain ⟨change, hchange, hentry⟩ := List.mem_map.1 hmem
    obtain ⟨hname, rfl⟩ := Prod.mk.inj hentry
    obtain rfl := Key.name_injective _ _ hname
    exact value_foldl_set_of_mem hnodup hchange s
  | none =>
    -- A change of this key would stand among those that are asked for.
    refine value_foldl_set_of_not_mem ?_ s
    intro hk
    obtain ⟨change, hchange, rfl⟩ := List.mem_map.1 hk
    have hmem : change.entry ∈ changes.entries := hperm.mem_iff.1 (List.mem_map_of_mem hchange)
    have hsome : changes.get? (Key.name change.key) = some change.json :=
      (changes.get?_eq_some_iff _ _).2 hmem
    rw [hget] at hsome
    contradiction

/-- The least name among those of misfits decides, in whatever sequence the changes are written. -/
theorem apply_eq_error_iff {s : Settings} {e : InputError} :
    s.apply changes = .error e ↔ FirstMisfit changes e := by
  -- Two changes of one name are one change, so that sorting by name puts them all in one sequence.
  let byName (a b : String × Json) : Ordering := compare a.1 b.1
  have htrans : TransCmp byName := inferInstanceAs (TransCmp (compareOn Prod.fst))
  have hdistinct : ∀ a ∈ changes.entries, ∀ b ∈ changes.entries, byName a b = .eq → a = b := by
    intro a ha b hb hab
    have hname : a.1 = b.1 := LawfulEqOrd.eq_of_compare hab
    exact List.inj_on_of_nodup_map changes.nodup_keys ha hb hname
  have hfault := Outcome.mapM_mergeSort_eq_error_iff
    (f := fun entry => SettingChange.read entry.1 entry.2) (e := e) changes.nodup_keys.of_map
    hdistinct
  simp only [SettingChange.read_eq_error_iff, SettingChange.exists_read_eq_ok_iff, Prod.forall,
    Prod.exists] at hfault
  simp only [FirstMisfit, InsertionMap.get?_eq_some_iff]
  rw [apply_eq_map, Outcome.map_eq_error_iff]
  exact hfault

theorem exists_apply_eq_ok_iff {s : Settings} :
    (∃ s', s.apply changes = .ok s') ↔ AllSuit changes := by
  have hread : (∃ checked, (changes.entries.mergeSort fun a b => (compare a.1 b.1).isLE).mapM
      (fun entry => SettingChange.read entry.1 entry.2) = .ok checked) ↔ AllSuit changes := by
    rw [Outcome.exists_mapM_eq_ok_iff]
    simp only [List.mem_mergeSort, SettingChange.exists_read_eq_ok_iff, Prod.forall, AllSuit,
      InsertionMap.get?_eq_some_iff]
  simp only [← hread, apply_eq_map, Outcome.map_eq_ok_iff]
  constructor
  · intro h
    obtain ⟨_, checked, hchecked, -⟩ := h
    exact ⟨checked, hchecked⟩
  · intro h
    obtain ⟨checked, hchecked⟩ := h
    exact ⟨_, checked, hchecked, rfl⟩

theorem apply_eq_ok_iff {s s' : Settings} :
    s.apply changes = .ok s' ↔ AllSuit changes ∧ Changed changes s s' := by
  constructor
  · intro h
    exact ⟨exists_apply_eq_ok_iff.1 ⟨s', h⟩, changed_of_apply_eq_ok h⟩
  · intro h
    obtain ⟨hsuit, hchanged⟩ := h
    obtain ⟨settings, hsettings⟩ : ∃ settings, s.apply changes = .ok settings :=
      exists_apply_eq_ok_iff.2 hsuit
    -- What the changes lead to is told by its values.
    have heq : settings = s' := eq_of_value_eq fun k => by
      rw [changed_of_apply_eq_ok hsettings k, hchanged k]
    rw [hsettings, heq]

end Settings

end EntitySearch
