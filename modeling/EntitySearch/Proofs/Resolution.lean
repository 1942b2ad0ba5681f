import EntitySearch.Request
import EntitySearch.User
import EntitySearch.Proofs.Refusal

/-!
Requests under a configuration. A request is looked through for flaws in a fixed sequence and
refused for the first one (`resolve_eq_error_iff`). What has none is taken as it stands, no number
being changed to fit, and its search can then be refused for its criteria alone
(`resolve_takenAs_or_firstFlaw`).
-/

namespace EntitySearch.Request

open Collection Outcome

variable {α O C : Type} [DecidableEq O] [Key O] [Key C]

section Meaning

variable (S : Schema α O C) (c : Config) (r : Request)

/-- The size asked for, or else the one that the configuration has for the type of entity. -/
def effectiveSize : Nat := r.pageSize.getD (c.pageSizeFor S.plural)

/-- What the query text asks for, which is nothing where there is no text. -/
def queryFilter : Except InputError (Filter O C) :=
  match r.query with
  | some text => Query.read S text
  | none => .ok .empty

/-- The order of the sort text where there is one, even if it is empty. -/
def sortOrderOr (order : SortOrder O) : Except InputError (SortOrder O) :=
  match r.sort with
  | some text => SortOrder.read text
  | none => .ok order

/-- What is wrong with a request, by the place of the check that finds it. -/
inductive Flaw : Nat → InputError → Prop
  | page (h : r.page = some 0) : Flaw 0 (.pageNumber 0)
  | size (h : r.effectiveSize S c = 0) : Flaw 1 (.pageSize 0)
  | limit {max : Nat} (hmax : c.maxPageSize = some max) (h : max < r.effectiveSize S c) :
    Flaw 2 (.pageSizeTooLarge (r.effectiveSize S c) max)
  | query {text : String} {e : InputError} (htext : r.query = some text)
    (he : Query.read S text = .error e) : Flaw 3 e
  | sort {text : String} {e : InputError} (htext : r.sort = some text)
    (he : SortOrder.read (K := O) text = .error e) : Flaw 4 e

/-- No check in front of the place `i` finds a flaw. -/
def ClearBefore (i : Nat) : Prop := ∀ j < i, ∀ e, ¬ r.Flaw S c j e

/-- The flaw with the fault `e` is found first. -/
def FirstFlaw (e : InputError) : Prop := ∃ i, r.Flaw S c i e ∧ r.ClearBefore S c i

structure IsSound : Prop where
  page : ∀ n, r.page = some n → 1 ≤ n
  size : 1 ≤ r.effectiveSize S c
  limit : ∀ max, c.maxPageSize = some max → r.effectiveSize S c ≤ max
  query : ∀ text, r.query = some text → ∃ f, Query.read S text = .ok f
  sort : ∀ text, r.sort = some text → ∃ o : SortOrder O, SortOrder.read text = .ok o

/-- The request as it stands: its numbers or the defaults, the requirements of the query text, and
the order of the sort text, or of the query text where there is no sort text. -/
structure TakenAs (q : ResolvedRequest O C) : Prop where
  number : q.number = r.page.getD 1
  size : q.size = r.effectiveSize S c
  requirements : (r.queryFilter S).map (·.requirements) = .ok q.filter.requirements
  order_of_sort : ∀ text, r.sort = some text → SortOrder.read text = .ok q.filter.order
  order_of_query : r.sort = none → (r.queryFilter S).map (·.order) = .ok q.filter.order

/-- The checks one after another. The first two are those of the search itself. -/
theorem resolve_eq :
    r.resolve S c = (do
      let _ ← Window.ofPage (r.page.getD 1) (r.effectiveSize S c)
      checkLimit c.maxPageSize (r.effectiveSize S c)
      let f ← r.queryFilter S
      let order ← r.sortOrderOr f.order
      pure ⟨f.withOrder order, r.page.getD 1, r.effectiveSize S c⟩) := by
  rw [resolve, Window.ofPage, effectiveSize]
  by_cases hnumber : r.page.getD 1 < 1
  · rw [if_pos hnumber, if_pos hnumber]
    rfl
  · rw [if_neg hnumber, if_neg hnumber]
    by_cases hsize : r.pageSize.getD (c.pageSizeFor S.plural) < 1
    · rw [if_pos hsize, if_pos hsize]
      rfl
    · rw [if_neg hsize, if_neg hsize, ok_bind]
      simp only [queryFilter, sortOrderOr]
      cases checkLimit c.maxPageSize (r.pageSize.getD (c.pageSizeFor S.plural)) with
      | error e => rfl
      | ok _ =>
        cases r.query with
        | none => cases r.sort <;> rfl
        | some text =>
          simp only [ok_bind]
          cases Query.read S text with
          | error e => rfl
          | ok f => cases r.sort <;> rfl

end Meaning

variable {S : Schema α O C} {c : Config} {r : Request} {i : Nat} {e e' : InputError}

theorem Flaw.unique (h : r.Flaw S c i e) (h' : r.Flaw S c i e') : e = e' := by
  cases h with
  | page => cases h'; rfl
  | size => cases h'; rfl
  | limit hmax =>
    cases h' with
    | limit hmax' => rw [Option.some.inj (hmax.symm.trans hmax')]
  | query htext he =>
    cases h' with
    | query htext' he' =>
      rw [htext] at htext'
      cases htext'
      exact Except.error.inj (he.symm.trans he')
  | sort htext he =>
    cases h' with
    | sort htext' he' =>
      rw [htext] at htext'
      cases htext'
      exact Except.error.inj (he.symm.trans he')

theorem FirstFlaw.unique (h : r.FirstFlaw S c e) (h' : r.FirstFlaw S c e') : e = e' := by
  obtain ⟨i, hi, hbefore⟩ := h
  obtain ⟨j, hj, hbefore'⟩ := h'
  rcases Nat.lt_trichotomy i j with hlt | rfl | hlt
  · exact absurd hi (hbefore' i hlt e)
  · exact hi.unique hj
  · exact absurd hj (hbefore j hlt e')

theorem clearBefore_zero : r.ClearBefore S c 0 := fun j hj => absurd hj (Nat.not_lt_zero j)

theorem ClearBefore.succ (h : r.ClearBefore S c i) (hi : ∀ e, ¬ r.Flaw S c i e) :
    r.ClearBefore S c (i + 1) := by
  intro j hj
  rcases Nat.lt_succ_iff_lt_or_eq.1 hj with hj | rfl
  · exact h j hj
  · exact hi

theorem IsSound.not_flaw (h : r.IsSound S c) : ¬ r.Flaw S c i e := by
  intro hflaw
  cases hflaw with
  | page hpage => exact absurd (h.page 0 hpage) (by decide)
  | size hsize => exact absurd h.size (by omega)
  | limit hmax hlt => exact absurd (h.limit _ hmax) (by omega)
  | query htext he =>
    obtain ⟨f, hf⟩ := h.query _ htext
    rw [he] at hf
    contradiction
  | sort htext he =>
    obtain ⟨o, ho⟩ := h.sort _ htext
    rw [he] at ho
    contradiction

theorem isSound_of_clear (h : r.ClearBefore S c 5) : r.IsSound S c := by
  constructor
  · intro n hn
    by_contra hzero
    obtain rfl : n = 0 := by omega
    exact h 0 (by decide) _ (.page hn)
  · by_contra hzero
    exact h 1 (by decide) _ (.size (by omega))
  · intro max hmax
    by_contra hlt
    exact h 2 (by decide) _ (.limit hmax (by omega))
  · intro text htext
    cases hread : Query.read S text with
    | error e => exact absurd (.query htext hread) (h 3 (by decide) e)
    | ok f => exact ⟨f, rfl⟩
  · intro text htext
    cases hread : SortOrder.read (K := O) text with
    | error e => exact absurd (.sort htext hread) (h 4 (by decide) e)
    | ok o => exact ⟨o, rfl⟩

section Checks

theorem flaw_page_iff : r.Flaw S c 0 e ↔ r.page.getD 1 = 0 ∧ e = .pageNumber 0 := by
  have hpage : r.page.getD 1 = 0 ↔ r.page = some 0 := by
    cases r.page <;> simp
  rw [hpage]
  constructor
  · intro h
    cases h with
    | page h => exact ⟨h, rfl⟩
  · rintro ⟨h, rfl⟩
    exact .page h

theorem flaw_size_iff : r.Flaw S c 1 e ↔ r.effectiveSize S c = 0 ∧ e = .pageSize 0 := by
  constructor
  · intro h
    cases h with
    | size h => exact ⟨h, rfl⟩
  · rintro ⟨h, rfl⟩
    exact .size h

theorem flaw_limit_iff :
    r.Flaw S c 2 e ↔ checkLimit c.maxPageSize (r.effectiveSize S c) = .error e := by
  constructor
  · intro h
    cases h with
    | limit hmax hlt =>
      rw [hmax]
      exact if_pos hlt
  · intro h
    cases hmax : c.maxPageSize with
    | none =>
      rw [hmax] at h
      contradiction
    | some max =>
      rw [hmax, checkLimit] at h
      split at h
      · next hlt => exact Except.error.inj h ▸ .limit hmax hlt
      · contradiction

theorem flaw_query_iff : r.Flaw S c 3 e ↔ r.queryFilter S = .error e := by
  constructor
  · intro h
    cases h with
    | query htext he =>
      rw [queryFilter, htext]
      exact he
  · intro h
    cases htext : r.query with
    | none =>
      rw [queryFilter, htext] at h
      contradiction
    | some text =>
      rw [queryFilter, htext] at h
      exact .query htext h

theorem flaw_sort_iff (order : SortOrder O) :
    r.Flaw S c 4 e ↔ r.sortOrderOr order = .error e := by
  constructor
  · intro h
    cases h with
    | sort htext he =>
      rw [sortOrderOr, htext]
      exact he
  · intro h
    cases htext : r.sort with
    | none =>
      rw [sortOrderOr, htext] at h
      contradiction
    | some text =>
      rw [sortOrderOr, htext] at h
      exact .sort htext h

end Checks

/-- One check after another passes or has its flaw found. -/
theorem taken_or_flawed (S : Schema α O C) (c : Config) (r : Request) :
    (∃ q, r.resolve S c = .ok q ∧ r.IsSound S c ∧ r.TakenAs S c q) ∨
      ∃ e, r.resolve S c = .error e ∧ r.FirstFlaw S c e := by
  rw [resolve_eq]
  -- Each check that passes makes the sequence clear up to the next place.
  rcases Nat.eq_zero_or_pos (r.page.getD 1) with hnumber | hnumber
  · rw [hnumber]
    exact .inr ⟨_, rfl, 0, flaw_page_iff.2 ⟨hnumber, rfl⟩, clearBefore_zero⟩
  have hclear : r.ClearBefore S c 1 := clearBefore_zero.succ fun e h => by
    rw [flaw_page_iff] at h
    omega
  rcases Nat.eq_zero_or_pos (r.effectiveSize S c) with hsize | hsize
  · rw [hsize, Window.ofPage_zero_right hnumber]
    exact .inr ⟨_, rfl, 1, .size hsize, hclear⟩
  replace hclear : r.ClearBefore S c 2 := hclear.succ fun e h => by
    rw [flaw_size_iff] at h
    omega
  rw [Window.ofPage_of_pos hnumber hsize, ok_bind]
  cases hlimit : checkLimit c.maxPageSize (r.effectiveSize S c) with
  | error e => exact .inr ⟨e, rfl, 2, flaw_limit_iff.2 hlimit, hclear⟩
  | ok _ =>
    replace hclear : r.ClearBefore S c 3 := hclear.succ fun e h => by
      rw [flaw_limit_iff, hlimit] at h
      contradiction
    cases hquery : r.queryFilter S with
    | error e => exact .inr ⟨e, rfl, 3, flaw_query_iff.2 hquery, hclear⟩
    | ok f =>
      replace hclear : r.ClearBefore S c 4 := hclear.succ fun e h => by
        rw [flaw_query_iff, hquery] at h
        contradiction
      simp only [ok_bind]
      cases hsort : r.sortOrderOr f.order with
      | error e => exact .inr ⟨e, rfl, 4, (flaw_sort_iff f.order).2 hsort, hclear⟩
      | ok order =>
        replace hclear : r.ClearBefore S c 5 := hclear.succ fun e h => by
          rw [flaw_sort_iff f.order, hsort] at h
          contradiction
        refine .inl ⟨_, rfl, isSound_of_clear hclear, rfl, rfl, ?_, ?_, ?_⟩
        · rw [hquery]
          rfl
        · intro text htext
          rwa [sortOrderOr, htext] at hsort
        · intro hnone
          rw [sortOrderOr, hnone] at hsort
          rw [hquery]
          exact hsort

theorem exists_resolve_eq_ok_iff : (∃ q, r.resolve S c = .ok q) ↔ r.IsSound S c := by
  rcases taken_or_flawed S c r with ⟨q, hq, hsound, -⟩ | ⟨e, he, i, hi, -⟩
  · exact iff_of_true ⟨q, hq⟩ hsound
  · refine iff_of_false ?_ fun h => h.not_flaw hi
    rw [he]
    rintro ⟨q, hq⟩
    contradiction

theorem resolve_eq_error_iff : r.resolve S c = .error e ↔ r.FirstFlaw S c e := by
  rcases taken_or_flawed S c r with ⟨q, hq, hsound, -⟩ | ⟨e', he', hfirst⟩
  · rw [hq]
    refine iff_of_false nofun ?_
    rintro ⟨i, hi, -⟩
    exact hsound.not_flaw hi
  · rw [he', Except.error.injEq]
    constructor
    · rintro rfl
      exact hfirst
    · exact hfirst.unique

theorem takenAs_of_resolve {q : ResolvedRequest O C} (h : r.resolve S c = .ok q) :
    r.TakenAs S c q := by
  rcases taken_or_flawed S c r with ⟨q', hq', -, htaken⟩ | ⟨e, he, -⟩
  · rw [hq'] at h
    exact Except.ok.inj h ▸ htaken
  · rw [he] at h
    contradiction

variable (S c r)

/-- A request resolves if and only if it is sound, and otherwise it is refused for its first flaw.
What it resolves to is the request as it stands, and a search for that on any collection can then
fail with the fault of its criteria alone. -/
theorem resolve_takenAs_or_firstFlaw :
    ((∃ q, r.resolve S c = .ok q) ↔ r.IsSound S c) ∧
    (∀ e, r.resolve S c = .error e ↔ r.FirstFlaw S c e) ∧
    ∀ q, r.resolve S c = .ok q → r.TakenAs S c q ∧
      ∀ today ordering (entities : Collection α) fault,
        (run ((store S today ordering).findPage S today q.filter q.number q.size) entities).1 =
            .error fault ↔
          ∃ e, q.filter.validate S today = .error e ∧ fault = .input e := by
  refine ⟨exists_resolve_eq_ok_iff, fun e => resolve_eq_error_iff, fun q hq => ?_⟩
  have hsound : r.IsSound S c := exists_resolve_eq_ok_iff.1 ⟨q, hq⟩
  have htaken : r.TakenAs S c q := takenAs_of_resolve hq
  have hnumber : 1 ≤ q.number := by
    rw [htaken.number]
    cases hpage : r.page with
    | none => exact Nat.le_refl 1
    | some n => exact hsound.page n hpage
  have hsize : 1 ≤ q.size := htaken.size ▸ hsound.size
  refine ⟨htaken, fun today ordering entities fault => ?_⟩
  rw [run_findPage, page_eq_error_iff]
  simp only [refusal_iff_of_pos hnumber hsize]

/-- The sort text is empty and replaces the order of the query text. That `someday` is no time is
found by the search. -/
theorem resolve_takenAs_or_firstFlaw_someday :
    let today : Date := ⟨2024, 6, 15⟩
    let c : Config := ⟨20, some 50, .ofList [("users", 10)]⟩
    let r : Request := ⟨some 3, none, some "registration_time:someday sort:name", some ""⟩
    let q : ResolvedRequest UserSort UserField :=
      ⟨⟨[⟨.registered, .plain "someday", false⟩], .empty⟩, 3, 10⟩
    let e : InputError := .criterionValue "registration_time" "someday"
    r.resolve User.schema c = .ok q ∧ r.TakenAs User.schema c q ∧
      q.filter.validate User.schema today = .error e ∧
      ∀ ordering entities,
        (run ((store User.schema today ordering).findPage User.schema today q.filter q.number
          q.size) entities).1 = .error (.input e) := by
  intro today c r q e
  have hq : r.resolve User.schema c = .ok q := rfl
  have he : q.filter.validate User.schema today = .error e := rfl
  obtain ⟨htaken, hsearch⟩ := (resolve_takenAs_or_firstFlaw User.schema c r).2.2 q hq
  exact ⟨hq, htaken, he, fun ordering entities =>
    (hsearch today ordering entities (.input e)).2 ⟨e, he, rfl⟩⟩

end EntitySearch.Request
