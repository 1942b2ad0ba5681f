import EntitySearch.User
import EntitySearch.Proofs.Search
import EntitySearch.Proofs.Settings

/-!
Editing the settings of a stored user. Whatever the edit ends with, it leaves the sequence of the
users and everyone else as they were, and of the user themselves it changes the settings alone
(`editSettings_course`).
-/

namespace EntitySearch.Collection

variable {α O C : Type}

/-- The collection `c'` is the collection `c` with `a` in the place of what has the same
identifier. -/
structure Replaced (S : Schema α O C) (c : Collection α) (a : α) (c' : Collection α) : Prop where
  keys_eq : c'.keys = c.keys
  size_eq : c'.size = c.size
  values_eq : c'.values = c.values.map fun b => if S.id b = S.id a then a else b
  get?_self : c'.get? (S.id a) = some a
  get?_of_ne : ∀ i, i ≠ S.id a → c'.get? i = c.get? i

section

variable {S : Schema α O C} {saved : List α} {a b : α}

theorem get?_save_ofHistory (h : S.lastSave? saved (S.id a) = some b) (i : Uuid) :
    ((ofHistory S saved).save S a).get? i =
      ((ofHistory S saved).get? i).map fun b => if S.id b = S.id a then a else b := by
  rw [save, InsertionMap.get?_insert, get?_ofHistory]
  cases hi : S.lastSave? saved i with
  | some c =>
    have hid : S.id c = i := Schema.id_of_lastSave? hi
    by_cases hself : i = S.id a
    · rw [if_pos hself.symm, Option.map_some, hid, if_pos hself]
    · rw [if_neg (Ne.symm hself), Option.map_some, hid, if_neg hself]
  | none =>
    have hne : S.id a ≠ i := by
      intro hself
      rw [hself, hi] at h
      contradiction
    rw [if_neg hne]
    rfl

/-- Saving what has been saved before replaces it where it stands. -/
theorem replaced_save_ofHistory (h : S.lastSave? saved (S.id a) = some b) :
    Replaced S (ofHistory S saved) a ((ofHistory S saved).save S a) := by
  have hget : (ofHistory S saved).get? (S.id a) = some b := by rw [get?_ofHistory, h]
  have hkeys : ((ofHistory S saved).save S a).keys = (ofHistory S saved).keys := by
    rw [save, InsertionMap.keys_insert, if_pos (InsertionMap.mem_keys_of_get? hget)]
  refine ⟨hkeys, ?_, ?_, ?_, ?_⟩
  · simpa [InsertionMap.keys, InsertionMap.size] using congrArg List.length hkeys
  · rw [InsertionMap.values_eq_filterMap, InsertionMap.values_eq_filterMap, hkeys,
      List.map_filterMap]
    apply List.filterMap_congr
    intro i _
    exact get?_save_ofHistory h i
  · rw [save, InsertionMap.get?_insert, if_pos rfl]
  · intro i hi
    rw [save, InsertionMap.get?_insert, if_neg (Ne.symm hi)]

end

theorem run_find [Key C] (S : Schema α O C) (today : Date) (ordering : Bool) (id : Uuid)
    (c : Collection α) :
    run ((store S today ordering).find S id) c =
      (match c.get? id with
        | some a => .ok a
        | none => .error (.notFound S.singular id), c) := by
  have hget : run (Store.ask ((store S today ordering).get id)) c = (.ok (c.get? id), c) :=
    run_ask _ c
  rw [Store.find, run_bind, hget]
  cases c.get? id <;> rfl

/-- How an edit of the settings of the user `id` ends, with the collection that it leaves. Before it
the collection is `c`, left by a history of saves. -/
inductive SettingsEdit (saved : List User) (c : Collection User) (id : Uuid)
    (changes : InsertionMap String Json) : Except SearchError User → Collection User → Prop
  | notFound (hnever : ∀ u ∈ saved, u.id ≠ id) :
    SettingsEdit saved c id changes (.error (.notFound "user" id)) c
  | refused {u : User} {e : InputError} (hu : User.schema.lastSave? saved id = some u)
      (he : Settings.FirstMisfit changes e) :
    SettingsEdit saved c id changes (.error (.input e)) c
  | anonymous {u : User} {settings : Settings} (hu : User.schema.lastSave? saved id = some u)
      (hsuit : Settings.AllSuit changes) (hsettings : Settings.Changed changes u.settings settings)
      (hrank : u.rank = .anonymous) :
    SettingsEdit saved c id changes (.ok { u with settings }) c
  | saved {u : User} {settings : Settings} {c' : Collection User}
      (hu : User.schema.lastSave? saved id = some u) (hsuit : Settings.AllSuit changes)
      (hsettings : Settings.Changed changes u.settings settings) (hrank : u.rank ≠ .anonymous)
      (hreplaced : Replaced User.schema c { u with settings } c') :
    SettingsEdit saved c id changes (.ok { u with settings }) c'

namespace SettingsEdit

variable {saved : List User} {c c' : Collection User} {id : Uuid}
  {changes : InsertionMap String Json}

theorem exists_notFound_iff {outcome : Except SearchError User}
    (h : SettingsEdit saved c id changes outcome c') :
    (∃ entity i, outcome = .error (.notFound entity i)) ↔ ∀ u ∈ saved, u.id ≠ id := by
  have hnever : (∀ u ∈ saved, u.id ≠ id) ↔ User.schema.lastSave? saved id = none :=
    (Schema.lastSave?_eq_none_iff (S := User.schema)).symm
  cases h with
  | notFound h => exact ⟨fun _ => h, fun _ => ⟨"user", id, rfl⟩⟩
  | refused hu => simp [hnever, hu]
  | anonymous hu => simp [hnever, hu]
  | saved hu => simp [hnever, hu]

theorem get?_of_ok {u : User} (h : SettingsEdit saved c id changes (.ok u) c')
    (hrank : u.rank ≠ .anonymous) : c'.get? id = some u := by
  cases h with
  | anonymous _ _ _ hanonymous => exact absurd hanonymous hrank
  | saved hu _ _ _ hreplaced =>
    obtain rfl := Schema.id_of_lastSave? hu
    exact hreplaced.get?_self

end SettingsEdit

section

variable (today : Date) (ordering : Bool) (id : Uuid) (changes : InsertionMap String Json)

/-- All exits of an edit: the collection changes at the last one only. -/
theorem run_editSettings (c : Collection User) :
    run (User.editSettings (store User.schema today ordering) id changes) c =
      match c.get? id with
      | none => (.error (.notFound "user" id), c)
      | some u =>
        match u.settings.apply changes with
        | .error e => (.error (.input e), c)
        | .ok settings =>
          (.ok { u with settings },
            if u.isAnonymous then c else c.save User.schema { u with settings }) := by
  rw [User.editSettings, run_bind, run_find]
  cases c.get? id with
  | none => rfl
  | some u =>
    simp only [run_bind, run_check]
    cases u.settings.apply changes with
    | error e => rfl
    | ok settings =>
      have hedited : User.isAnonymous { u with settings } = u.isAnonymous := rfl
      simp only [Except.mapError, hedited]
      cases u.isAnonymous <;> rfl

theorem settingsEdit_ofHistory (saved : List User) :
    let edit := run (User.editSettings (store User.schema today ordering) id changes)
      (ofHistory User.schema saved)
    SettingsEdit saved (ofHistory User.schema saved) id changes edit.1 edit.2 := by
  rw [run_editSettings, get?_ofHistory]
  cases hu : User.schema.lastSave? saved id with
  | none => exact .notFound (Schema.lastSave?_eq_none_iff.1 hu)
  | some u =>
    simp only
    cases hsettings : u.settings.apply changes with
    | error e => exact .refused hu (Settings.apply_eq_error_iff.1 hsettings)
    | ok settings =>
      obtain ⟨hsuit, hchanged⟩ := Settings.apply_eq_ok_iff.1 hsettings
      by_cases hrank : u.rank = .anonymous
      · have hanonymous : u.isAnonymous = true := by simp [User.isAnonymous, hrank]
        simp only [hanonymous, if_true]
        exact .anonymous hu hsuit hchanged hrank
      · have hanonymous : u.isAnonymous = false := by simp [User.isAnonymous, hrank]
        obtain rfl : u.id = id := Schema.id_of_lastSave? hu
        simp only [hanonymous]
        exact .saved hu hsuit hchanged hrank (replaced_save_ofHistory hu)

/-- After any history of saves, an edit takes one of the four courses. It ends without a user exactly
if the identifier has never been saved, and the user that it saves is found afterwards. -/
theorem editSettings_course (saved : List User) :
    let s := store User.schema today ordering
    let c := (run (s.saveAll saved) .empty).2
    let edit := run (User.editSettings s id changes) c
    SettingsEdit saved c id changes edit.1 edit.2 ∧
    ((∃ entity i, edit.1 = .error (.notFound entity i)) ↔ ∀ u ∈ saved, u.id ≠ id) ∧
    ∀ u, edit.1 = .ok u → u.rank ≠ .anonymous →
      run (s.find User.schema id) edit.2 = (.ok u, edit.2) := by
  intro s c edit
  have hc : c = ofHistory User.schema saved := by
    change (run (s.saveAll saved) .empty).2 = _
    rw [run_saveAll]
    rfl
  have hcourse : SettingsEdit saved c id changes edit.1 edit.2 := by
    simp only [edit, hc]
    exact settingsEdit_ofHistory today ordering id changes saved
  refine ⟨hcourse, hcourse.exists_notFound_iff, ?_⟩
  intro u hu hrank
  rw [run_find, SettingsEdit.get?_of_ok (hu ▸ hcourse) hrank]

/-- A member is saved between two visitors, and then asks for 25 posts a page. -/
theorem editSettings_course_member :
    let user (id : BitVec 128) (rank : AccessRank) : User :=
      ⟨⟨id⟩, "reginald", none, "", rank, ⟨0, 0, by decide⟩, none, .standard⟩
    let saved := [user 1 .anonymous, user 2 .regular, user 3 .anonymous]
    let changes : InsertionMap String Json := .ofList [("posts_per_page", .integer 25)]
    let s := store User.schema ⟨2024, 6, 15⟩ true
    let c := (run (s.saveAll saved) .empty).2
    let edit := run (User.editSettings s ⟨2⟩ changes) c
    let edited := { user 2 .regular with settings := { postsPerPage := 25 } }
    SettingsEdit saved c ⟨2⟩ changes (.ok edited) edit.2 ∧ edited.rank ≠ .anonymous ∧
      run (s.find User.schema ⟨2⟩) edit.2 = (.ok edited, edit.2) := by
  intro user saved changes s c edit edited
  have hget : c.get? ⟨2⟩ = some (user 2 .regular) := rfl
  have hrange : (SettingChange.postsPerPage 25).InRange := by decide
  have happly : (user 2 .regular).settings.apply changes = .ok { postsPerPage := 25 } :=
    Settings.apply_entry hrange .standard
  have hedit : edit.1 = .ok edited := by
    change (run (User.editSettings s ⟨2⟩ changes) c).1 = .ok edited
    rw [run_editSettings, hget]
    simp only [happly]
    rfl
  have hrank : edited.rank ≠ .anonymous := by decide
  have hcourse := editSettings_course ⟨2024, 6, 15⟩ true ⟨2⟩ changes saved
  exact ⟨hedit ▸ hcourse.1, hrank, hcourse.2.2 edited hedit hrank⟩

end

end EntitySearch.Collection
