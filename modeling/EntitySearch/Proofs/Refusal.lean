import EntitySearch.Proofs.Search

/-!
Refusals. A search is refused for its page number, for its page size, or for the first requirement
without a meaning, in this order. A collection that is asked directly finds the fault of the same
requirement, so that a search on a collection is refused before the collection would
(`answer_eq_error_iff`).
-/

namespace EntitySearch

variable {α O C : Type} [Key C]

/-- The fault of the first requirement that has no meaning. -/
def Filter.FirstFault (S : Schema α O C) (today : Date) (f : Filter O C) (e : InputError) : Prop :=
  ∃ before r after, f.requirements = before ++ r :: after ∧
    (∀ r' ∈ before, ∃ t, Test.ofRequirement S today r' = .ok t) ∧
    Test.ofRequirement S today r = .error e

/-- Why a search is refused, by the page number and the page size. -/
inductive Refusal (S : Schema α O C) (today : Date) (f : Filter O C) : Nat → Nat → InputError → Prop
  | number (size : Nat) : Refusal S today f 0 size (.pageNumber 0)
  | size {number : Nat} (hnumber : 1 ≤ number) : Refusal S today f number 0 (.pageSize 0)
  | filter {number size : Nat} {e : InputError} (hnumber : 1 ≤ number) (hsize : 1 ≤ size)
      (he : f.FirstFault S today e) : Refusal S today f number size e

variable {S : Schema α O C} {today : Date} {f : Filter O C}

namespace Filter

theorem compile_eq_error_iff {e : InputError} :
    f.compile S today = .error e ↔ f.FirstFault S today e := Outcome.mapM_eq_error_iff

theorem validate_eq_error_iff {e : InputError} :
    f.validate S today = .error e ↔ f.FirstFault S today e := by
  rw [← compile_eq_error_iff, validate, Outcome.map_eq_error_iff]

end Filter

/-- What is not refused passes both checks. -/
theorem exists_refusal_or_accepted (S : Schema α O C) (today : Date) (f : Filter O C)
    (number size : Nat) :
    (∃ e, Refusal S today f number size e) ∨
      ∃ window p, Window.ofPage number size = .ok window ∧ f.compile S today = .ok p := by
  rcases Nat.eq_zero_or_pos number with rfl | hnumber
  · exact .inl ⟨_, .number size⟩
  · rcases Nat.eq_zero_or_pos size with rfl | hsize
    · exact .inl ⟨_, .size hnumber⟩
    · cases hp : f.compile S today with
      | error e => exact .inl ⟨e, .filter hnumber hsize (Filter.compile_eq_error_iff.1 hp)⟩
      | ok p => exact .inr ⟨_, p, Window.ofPage_of_pos hnumber hsize, rfl⟩

theorem refusal_iff {number size : Nat} {e : InputError} :
    Refusal S today f number size e ↔
      number = 0 ∧ e = .pageNumber 0 ∨
      1 ≤ number ∧ size = 0 ∧ e = .pageSize 0 ∨
      1 ≤ number ∧ 1 ≤ size ∧ f.validate S today = .error e := by
  constructor
  · intro h
    cases h with
    | number => exact .inl ⟨rfl, rfl⟩
    | size hnumber => exact .inr (.inl ⟨hnumber, rfl, rfl⟩)
    | filter hnumber hsize he =>
      exact .inr (.inr ⟨hnumber, hsize, Filter.validate_eq_error_iff.2 he⟩)
  · intro h
    rcases h with ⟨rfl, rfl⟩ | ⟨hnumber, rfl, rfl⟩ | ⟨hnumber, hsize, he⟩
    · exact .number size
    · exact .size hnumber
    · exact .filter hnumber hsize (Filter.validate_eq_error_iff.1 he)

theorem refusal_iff_of_pos {number size : Nat} (hnumber : 1 ≤ number) (hsize : 1 ≤ size)
    {e : InputError} : Refusal S today f number size e ↔ f.validate S today = .error e := by
  have hnumber' : number ≠ 0 := by omega
  have hsize' : size ≠ 0 := by omega
  simp [refusal_iff, hnumber, hsize, hnumber', hsize']

namespace Collection

variable {c : Collection α} {number size : Nat}

theorem select_eq_error_iff {fault : StoreError} :
    c.select S today f.requirements = .error fault ↔
      ∃ e, f.validate S today = .error e ∧ fault = .query "in-memory" e.message := by
  simp only [Filter.validate_eq_error_iff, ← Filter.compile_eq_error_iff]
  cases hp : f.compile S today with
  | ok p => simp [select_of_compile hp]
  | error e =>
    rw [Filter.compile] at hp
    rw [select, hp]
    simp [eq_comm]

theorem selectWindow_eq_error_iff {order : SortOrder O} {window : Window} {fault : StoreError} :
    c.selectWindow S today f.requirements order window = .error fault ↔
      c.select S today f.requirements = .error fault := by
  rw [selectWindow, Outcome.map_eq_error_iff]

theorem page_of_refusal {e : InputError} (h : Refusal S today f number size e) :
    c.page S today f number size = .error (.input e) := by
  cases h with
  | number => rfl
  | size hnumber => rw [page, Window.ofPage_zero_right hnumber]; rfl
  | filter hnumber hsize he =>
    exact page_of_compile_error (Filter.compile_eq_error_iff.2 he) hnumber hsize c

theorem page_eq_error_iff {fault : SearchError} :
    c.page S today f number size = .error fault ↔
      ∃ e, Refusal S today f number size e ∧ fault = .input e := by
  constructor
  · intro h
    rcases exists_refusal_or_accepted S today f number size with ⟨e, he⟩ | ⟨window, p, hwindow, hp⟩
    · rw [page_of_refusal he] at h
      exact ⟨e, he, (Except.error.inj h).symm⟩
    · rw [page, hwindow, hp] at h
      contradiction
  · intro h
    obtain ⟨e, he, rfl⟩ := h
    exact page_of_refusal he

variable (S today f)

/-- After any history of saves, a collection that is asked for the matches of a filter, or for a
window of them, has no answer if and only if the filter is not valid, and it gives the text of the
same fault. A search for the filter is then refused on its own account: whatever it fails with, it
does not come from the collection. -/
theorem answer_eq_error_iff (saved : List α) :
    (∀ ordering fault,
      (((store S today ordering).select f.requirements).run (ofHistory S saved)).1 =
          .error fault ↔
        ∃ e, f.validate S today = .error e ∧ fault = .query "in-memory" e.message) ∧
    (∀ order window fault,
      (((store S today true).selectWindow f.requirements order window).run
          (ofHistory S saved)).1 = .error fault ↔
        ∃ e, f.validate S today = .error e ∧ fault = .query "in-memory" e.message) ∧
    ∀ ordering number size,
      (∀ fault, answer S today ordering saved f number size ≠ .error (.store fault)) ∧
      ∀ fault, answer S today ordering saved f number size = .error fault ↔
        number = 0 ∧ fault = .input (.pageNumber 0) ∨
        1 ≤ number ∧ size = 0 ∧ fault = .input (.pageSize 0) ∨
        1 ≤ number ∧ 1 ≤ size ∧ ∃ e, f.validate S today = .error e ∧ fault = .input e := by
  refine ⟨?_, ?_, ?_⟩
  · intro ordering fault
    exact select_eq_error_iff
  · intro order window fault
    have hrun : (((store S today true).selectWindow f.requirements order window).run
        (ofHistory S saved)).1 =
          ((ofHistory S saved).selectWindow S today f.requirements order window).map some := rfl
    rw [hrun, Outcome.map_eq_error_iff, selectWindow_eq_error_iff, select_eq_error_iff]
  · intro ordering number size
    rw [answer_eq_page]
    constructor
    · intro fault h
      obtain ⟨e, -, hfault⟩ := page_eq_error_iff.1 h
      contradiction
    · intro fault
      rw [page_eq_error_iff]
      simp only [refusal_iff, or_and_right, exists_or, and_assoc, exists_and_left,
        exists_eq_left]

end Collection

end EntitySearch
