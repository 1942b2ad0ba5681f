import EntitySearch.Proofs.SettingsEdit

/-!
Histories of a store of users, to which both saves and edits of settings belong. An edit makes one
save or none, depending on what has been saved before it (`UserStep.Saves`), and after any steps the
collection is the one that their saves leave (`UserStep.performAll_of_history`).
-/

namespace EntitySearch

/-- A step that may change what a store of users holds. -/
inductive UserStep
  | save (u : User)
  | edit (id : Uuid) (changes : InsertionMap String Json)

namespace UserStep

open Collection

def perform {m : Type → Type} [Monad m] (s : Store m User UserSort UserField) :
    UserStep → ExceptT SearchError m User
  | save u => s.save u
  | edit id changes => User.editSettings s id changes

/-- Takes the steps one after another, and goes on after those that fail. -/
def performAll (s : Store (StateM (Collection User)) User UserSort UserField)
    (steps : List UserStep) (c : Collection User) : Collection User :=
  steps.foldl (fun c step => (run (step.perform s) c).2) c

/-- What a step saves after a history of saves. An edit saves its user with the changed settings;
it saves nothing where it is refused or finds no user or an anonymous one. -/
inductive Saves (saved : List User) : UserStep → List User → Prop
  | save (u : User) : Saves saved (.save u) [u]
  | edited {id : Uuid} {changes : InsertionMap String Json} {u : User} {settings : Settings}
      (hu : User.schema.IsLastSave saved id u) (hrank : u.rank ≠ .anonymous)
      (hsuit : Settings.AllSuit changes) (hchanged : Settings.Changed changes u.settings settings) :
    Saves saved (.edit id changes) [{ u with settings }]
  | anonymous {id : Uuid} {changes : InsertionMap String Json} {u : User}
      (hu : User.schema.IsLastSave saved id u) (hrank : u.rank = .anonymous) :
    Saves saved (.edit id changes) []
  | refused {id : Uuid} {changes : InsertionMap String Json} {e : InputError}
      (he : Settings.FirstMisfit changes e) : Saves saved (.edit id changes) []
  | notFound {id : Uuid} {changes : InsertionMap String Json} (hnever : ∀ u ∈ saved, u.id ≠ id) :
    Saves saved (.edit id changes) []

/-- The saves that are made by steps which are taken one after another. -/
inductive History : List UserStep → List User → Prop
  | nil : History [] []
  | step {steps : List UserStep} {saved new : List User} {next : UserStep}
      (h : History steps saved) (hnext : Saves saved next new) :
    History (steps ++ [next]) (saved ++ new)

section

variable {saved new : List User} {step : UserStep}

theorem exists_saves (saved : List User) (step : UserStep) : ∃ new, Saves saved step new := by
  cases step with
  | save u => exact ⟨[u], .save u⟩
  | edit id changes =>
    cases hu : User.schema.lastSave? saved id with
    | none => exact ⟨[], .notFound (Schema.lastSave?_eq_none_iff.1 hu)⟩
    | some u =>
      have hlast : User.schema.IsLastSave saved id u := Schema.lastSave?_eq_some_iff.1 hu
      by_cases hrank : u.rank = .anonymous
      · exact ⟨[], .anonymous hlast hrank⟩
      · cases hsettings : u.settings.apply changes with
        | error e => exact ⟨[], .refused (Settings.apply_eq_error_iff.1 hsettings)⟩
        | ok settings =>
          obtain ⟨hsuit, hchanged⟩ := Settings.apply_eq_ok_iff.1 hsettings
          exact ⟨[{ u with settings }], .edited hlast hrank hsuit hchanged⟩

/-- A step leaves the collection of the history that its saves go on. -/
theorem run_perform_ofHistory (today : Date) (ordering : Bool) (h : Saves saved step new) :
    (run (step.perform (store User.schema today ordering)) (ofHistory User.schema saved)).2 =
      ofHistory User.schema (saved ++ new) := by
  cases h with
  | save u => exact (ofHistory_concat User.schema saved u).symm
  | @edited id changes u settings hu hrank hsuit hchanged =>
    obtain rfl : u.id = id := hu.1
    have hget : (ofHistory User.schema saved).get? u.id = some u := by
      rw [get?_ofHistory, Schema.lastSave?_eq_some_iff.2 hu]
    have happly : u.settings.apply changes = .ok settings :=
      Settings.apply_eq_ok_iff.2 ⟨hsuit, hchanged⟩
    have hnamed : u.isAnonymous = false := by simp [User.isAnonymous, hrank]
    rw [ofHistory_concat, perform, run_editSettings, hget]
    simp only [happly, hnamed]
    rfl
  | @anonymous id changes u hu hrank =>
    have hget : (ofHistory User.schema saved).get? id = some u := by
      rw [get?_ofHistory, Schema.lastSave?_eq_some_iff.2 hu]
    have hanonymous : u.isAnonymous = true := by simp [User.isAnonymous, hrank]
    rw [List.append_nil, perform, run_editSettings, hget]
    simp only [hanonymous, if_true]
    cases u.settings.apply changes <;> rfl
  | @refused id changes e he =>
    have hrefused (u : User) : u.settings.apply changes = .error e :=
      Settings.apply_eq_error_iff.2 he
    rw [List.append_nil, perform, run_editSettings]
    simp only [hrefused]
    cases (ofHistory User.schema saved).get? id <;> rfl
  | @notFound id changes hnever =>
    have hget : (ofHistory User.schema saved).get? id = none := by
      rw [get?_ofHistory, Schema.lastSave?_eq_none_iff.2 hnever]
    rw [List.append_nil, perform, run_editSettings, hget]

end

theorem exists_history (steps : List UserStep) : ∃ saved, History steps saved := by
  induction steps using List.reverseRecOn with
  | nil => exact ⟨[], .nil⟩
  | append_singleton steps next ih =>
    obtain ⟨saved, h⟩ := ih
    obtain ⟨new, hnew⟩ := exists_saves saved next
    exact ⟨saved ++ new, h.step hnew⟩

theorem performAll_of_history (today : Date) (ordering : Bool) {steps : List UserStep}
    {saved : List User} (h : History steps saved) :
    performAll (store User.schema today ordering) steps .empty = ofHistory User.schema saved := by
  let s := store User.schema today ordering
  induction h with
  | nil => rfl
  | @step steps saved new next _ hnext ih =>
    calc
      performAll s (steps ++ [next]) .empty =
          (run (next.perform s) (performAll s steps .empty)).2 := by
        simp only [performAll, List.foldl_append, List.foldl_cons, List.foldl_nil]
      _ = (run (next.perform s) (ofHistory User.schema saved)).2 := by rw [ih]
      _ = ofHistory User.schema (saved ++ new) := run_perform_ofHistory today ordering hnext

end UserStep

end EntitySearch
