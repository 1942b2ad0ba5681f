import EntitySearch.Proofs.Refusal

/-!
What a search asks of its store, whatever the store is and however it answers. A refused search
asks nothing. Any other search asks for a window first, and for all matches only where the store
declines to order; the answers of the store decide the outcome, its faults unchanged
(`findPage_exchanges`).
-/

namespace EntitySearch.Store

variable {m : Type → Type} [Monad m] {α O C : Type}

/-- One call of a store, with its answer. -/
inductive Exchange (α O C : Type)
  | select (rs : List (Requirement C)) (answer : Except StoreError (List α))
  | selectWindow (rs : List (Requirement C)) (order : SortOrder O) (window : Window)
    (answer : Except StoreError (Option (StorePage α)))
  | get (id : Uuid) (answer : Except StoreError (Option α))
  | upsert (a : α) (answer : Except StoreError α)

/-- Carries an action out and appends its answer to a record. -/
def record {β : Type} (exchange : β → Exchange α O C) (action : m β) :
    StateT (List (Exchange α O C)) m β := do
  let answer ← StateT.lift action
  modify (· ++ [exchange answer])
  pure answer

/-- The same store, which keeps a record of its calls. -/
def recorded (s : Store m α O C) : Store (StateT (List (Exchange α O C)) m) α O C where
  select rs := record (.select rs) (s.select rs)
  selectWindow rs order window :=
    record (.selectWindow rs order window) (s.selectWindow rs order window)
  get id := record (.get id) (s.get id)
  upsert a := record (.upsert a) (s.upsert a)

/-- The calls of a search that is not refused, in their sequence, and the outcome that their answers
lead to. -/
inductive Course (S : Schema α O C) (f : Filter O C) (number size : Nat) (window : Window) :
    List (Exchange α O C) → Except SearchError (ResultPage α O C) → Prop
  | windowFault (e : StoreError) :
    Course S f number size window
      [.selectWindow f.requirements (f.effectiveOrder S) window (.error e)] (.error (.store e))
  | window (page : StorePage α) :
    Course S f number size window
      [.selectWindow f.requirements (f.effectiveOrder S) window (.ok (some page))]
      (.ok ⟨page.entities, page.total, number, size, f⟩)
  | selectFault (e : StoreError) :
    Course S f number size window
      [.selectWindow f.requirements (f.effectiveOrder S) window (.ok none),
        .select f.requirements (.error e)]
      (.error (.store e))
  | select (found : List α) :
    Course S f number size window
      [.selectWindow f.requirements (f.effectiveOrder S) window (.ok none),
        .select f.requirements (.ok found)]
      (.ok ⟨window.apply (S.sort (f.effectiveOrder S) found), found.length, number, size, f⟩)

section

variable [LawfulMonad m]

theorem check_ok_bind {β γ : Type} (b : β) (k : β → ExceptT SearchError m γ) :
    (check (.ok b) >>= k) = k b := pure_bind b k

theorem check_error_bind {β γ : Type} (e : InputError) (k : β → ExceptT SearchError m γ) :
    (check (.error e) >>= k) = throw (.input e) := by
  simp [check]

variable [Key C] {S : Schema α O C} {today : Date} {f : Filter O C} {number size : Nat}
  (s : Store m α O C)

theorem findPage_of_refusal {e : InputError} (h : Refusal S today f number size e) :
    s.findPage S today f number size = throw (.input e) := by
  rw [findPage]
  cases h with
  | number => rw [Window.ofPage_zero_left, check_error_bind]
  | size hnumber => rw [Window.ofPage_zero_right hnumber, check_error_bind]
  | filter hnumber hsize he =>
    rw [Window.ofPage_of_pos hnumber hsize, check_ok_bind, Filter.validate_eq_error_iff.2 he,
      check_error_bind]

theorem findPage_of_accepted {window : Window} {p : Predicate C}
    (hwindow : Window.ofPage number size = .ok window) (hp : f.compile S today = .ok p) :
    s.findPage S today f number size = (do
      match ← ask (s.selectWindow f.requirements (f.effectiveOrder S) window) with
      | some page => pure ⟨page.entities, page.total, number, size, f⟩
      | none =>
        let found ← ask (s.select f.requirements)
        pure ⟨window.apply (S.sort (f.effectiveOrder S) found), found.length, number, size, f⟩) := by
  have hvalid : f.validate S today = .ok ⟨⟩ := by
    rw [Filter.validate, hp]
    rfl
  rw [findPage, hwindow, check_ok_bind, hvalid]
  exact check_ok_bind _ _

end

section

variable {σ : Type}

/-- The outcome of an action on a recorded store, the calls it adds to the record, and the state of
the store after it. -/
def trace {β : Type} (x : ExceptT SearchError (StateT (List (Exchange α O C)) (StateM σ)) β)
    (l : List (Exchange α O C)) (a : σ) : (Except SearchError β × List (Exchange α O C)) × σ :=
  (x.run.run l).run a

theorem trace_bind {β γ : Type}
    (x : ExceptT SearchError (StateT (List (Exchange α O C)) (StateM σ)) β)
    (k : β → ExceptT SearchError (StateT (List (Exchange α O C)) (StateM σ)) γ)
    (l : List (Exchange α O C)) (a : σ) :
    trace (x >>= k) l a = match trace x l a with
      | ((.ok b, l'), a') => trace (k b) l' a'
      | ((.error e, l'), a') => ((.error e, l'), a') := by
  simp only [trace, ExceptT.run_bind, StateT.run_bind]
  rcases h : StateT.run (StateT.run x.run l) a with ⟨⟨_ | _, l'⟩, a'⟩ <;> rfl

theorem trace_ask_record {β : Type} (exchange : Except StoreError β → Exchange α O C)
    (action : StateM σ (Except StoreError β)) (l : List (Exchange α O C)) (a : σ) :
    trace (ask (record exchange action)) l a =
      (((action.run a).1.mapError .store, l ++ [exchange (action.run a).1]), (action.run a).2) := by
  rcases h : action.run a with ⟨_ | _, a'⟩ <;>
    simp only [trace, ask, record, ExceptT.run_mk, StateT.run_bind, StateT.run_lift, h] <;> rfl

/-- The recorded action ends like the other one and leaves the same state, whatever the record
holds. -/
def SameOutcome {β : Type} (x : ExceptT SearchError (StateT (List (Exchange α O C)) (StateM σ)) β)
    (y : ExceptT SearchError (StateM σ) β) : Prop :=
  ∀ l a, y.run.run a = ((trace x l a).1.1, (trace x l a).2)

namespace SameOutcome

variable {β γ : Type} {x : ExceptT SearchError (StateT (List (Exchange α O C)) (StateM σ)) β}
  {y : ExceptT SearchError (StateM σ) β}

theorem bind (h : SameOutcome x y)
    {k : β → ExceptT SearchError (StateT (List (Exchange α O C)) (StateM σ)) γ}
    {k' : β → ExceptT SearchError (StateM σ) γ} (hk : ∀ b, SameOutcome (k b) (k' b)) :
    SameOutcome (x >>= k) (y >>= k') := by
  intro l a
  simp only [trace_bind, ExceptT.run_bind, StateT.run_bind, h l a]
  rcases trace x l a with ⟨⟨e | b, l'⟩, a'⟩
  · rfl
  · exact hk b l' a'

theorem pure (b : β) : SameOutcome (α := α) (O := O) (C := C) (σ := σ) (Pure.pure b) (Pure.pure b) :=
  fun _ _ => rfl

theorem check (x : Except InputError β) :
    SameOutcome (α := α) (O := O) (C := C) (σ := σ) (Store.check x) (Store.check x) := by
  intro l a
  cases x <;> rfl

theorem ask (exchange : Except StoreError β → Exchange α O C)
    (action : StateM σ (Except StoreError β)) :
    SameOutcome (Store.ask (record exchange action)) (Store.ask action) := by
  intro l a
  rw [trace_ask_record]
  rcases h : action.run a with ⟨_ | _, a'⟩ <;>
    simp only [Store.ask, ExceptT.run_mk, StateT.run_bind, h] <;> rfl

end SameOutcome

variable [Key C] {S : Schema α O C} {today : Date} {f : Filter O C} {number size : Nat}

theorem sameOutcome_findPage (s : Store (StateM σ) α O C) :
    SameOutcome (s.recorded.findPage S today f number size) (s.findPage S today f number size) := by
  refine .bind (.check _) fun window => .bind (.check _) fun _ => .bind (.ask _ _) ?_
  intro reply
  cases reply with
  | some page => exact .pure _
  | none => exact .bind (.ask _ _) fun _ => .pure _

/-- The answer to the first call decides whether there is a second, and the last answer decides the
outcome. -/
theorem exists_course_of_accepted (s : Store (StateM σ) α O C) (a : σ) {window : Window}
    {p : Predicate C} (hwindow : Window.ofPage number size = .ok window)
    (hp : f.compile S today = .ok p) :
    ∃ exchanges outcome a',
      trace (s.recorded.findPage S today f number size) [] a = ((outcome, exchanges), a') ∧
      Course S f number size window exchanges outcome := by
  rw [findPage_of_accepted s.recorded hwindow hp]
  simp only [trace_bind, recorded, trace_ask_record]
  rcases hreply : (s.selectWindow f.requirements (f.effectiveOrder S) window).run a with
    ⟨e | _ | page, a'⟩
  · exact ⟨_, _, a', rfl, .windowFault e⟩
  · simp only [Except.mapError, trace_bind, trace_ask_record]
    rcases hfound : (s.select f.requirements).run a' with ⟨e | found, a''⟩
    · exact ⟨_, _, a'', rfl, .selectFault e⟩
    · exact ⟨_, _, a'', rfl, .select found⟩
  · exact ⟨_, _, a', rfl, .window page⟩

variable (S today f number size)

/-- From whatever state a store of whatever kind starts, a search that is refused for its input makes
no call and changes nothing. Any other search runs one of the courses. To keep a record makes no
difference to the outcome, nor to the state that the store is left in. -/
theorem findPage_exchanges (s : Store (StateM σ) α O C) (a : σ) :
    (∀ e, Refusal S today f number size e →
      trace (s.recorded.findPage S today f number size) [] a = ((.error (.input e), []), a)) ∧
    ((∀ e, ¬ Refusal S today f number size e) →
      ∃ window exchanges outcome a', Window.ofPage number size = .ok window ∧
        trace (s.recorded.findPage S today f number size) [] a = ((outcome, exchanges), a') ∧
        Course S f number size window exchanges outcome) ∧
    SameOutcome (s.recorded.findPage S today f number size)
      (s.findPage S today f number size) := by
  refine ⟨fun e he => ?_, fun h => ?_, sameOutcome_findPage s⟩
  · rw [findPage_of_refusal s.recorded he]
    rfl
  · have hchecked := exists_refusal_or_accepted S today f number size
    obtain ⟨window, p, hwindow, hp⟩ := hchecked.resolve_left fun ⟨e, he⟩ => h e he
    obtain ⟨exchanges, outcome, a', htrace, hcourse⟩ := exists_course_of_accepted s a hwindow hp
    exact ⟨window, exchanges, outcome, a', hwindow, htrace, hcourse⟩

/-- A store that is down and counts its calls is not called for a filter whose second requirement has
no meaning, and it is called for the first requirement alone. -/
theorem findPage_exchanges_counting :
    let down {β : Type} : StateM Nat (Except StoreError β) := do
      modify (· + 1)
      pure (.error (.unavailable "PostgreSQL"))
    let s : Store (StateM Nat) Tag TagSort TagField :=
      ⟨fun _ => down, fun _ _ _ => down, fun _ => down, fun _ => down⟩
    let cat : Requirement TagField := ⟨.name, .plain "cat", false⟩
    let often : Requirement TagField := ⟨.usages, .plain "often", false⟩
    Refusal Tag.schema ⟨2024, 6, 15⟩ ⟨[cat, often], .empty⟩ 1 2 (.criterionValue "usages" "often") ∧
      trace (s.recorded.findPage Tag.schema ⟨2024, 6, 15⟩ ⟨[cat, often], .empty⟩ 1 2) [] 0 =
        ((.error (.input (.criterionValue "usages" "often")), []), 0) ∧
      (∀ e, ¬ Refusal Tag.schema ⟨2024, 6, 15⟩ ⟨[cat], .empty⟩ 1 2 e) ∧
      ∃ window exchanges outcome calls, Window.ofPage 1 2 = .ok window ∧
        trace (s.recorded.findPage Tag.schema ⟨2024, 6, 15⟩ ⟨[cat], .empty⟩ 1 2) [] 0 =
          ((outcome, exchanges), calls) ∧
        Course Tag.schema ⟨[cat], .empty⟩ 1 2 window exchanges outcome := by
  intro down s cat often
  have hcat : Test.ofRequirement Tag.schema ⟨2024, 6, 15⟩ cat =
      .ok ⟨.name, false, [.pattern [.literal 'c', .literal 'a', .literal 't']]⟩ := rfl
  have hoften : Refusal Tag.schema ⟨2024, 6, 15⟩ ⟨[cat, often], .empty⟩ 1 2
      (.criterionValue "usages" "often") := by
    refine .filter (by decide) (by decide) ⟨[cat], often, [], rfl, ?_, rfl⟩
    intro r hr
    rw [List.mem_singleton.1 hr]
    exact ⟨_, hcat⟩
  have haccepted (e : InputError) :
      ¬ Refusal Tag.schema ⟨2024, 6, 15⟩ (⟨[cat], .empty⟩ : Filter TagSort TagField) 1 2 e := by
    intro h
    cases h with
    | filter _ _ he =>
      have hvalid : (⟨[cat], .empty⟩ : Filter TagSort TagField).validate Tag.schema ⟨2024, 6, 15⟩ =
          .ok ⟨⟩ := rfl
      rw [← Filter.validate_eq_error_iff, hvalid] at he
      contradiction
  exact ⟨hoften, (findPage_exchanges Tag.schema ⟨2024, 6, 15⟩ _ 1 2 s 0).1 _ hoften, haccepted,
    (findPage_exchanges Tag.schema ⟨2024, 6, 15⟩ _ 1 2 s 0).2.1 haccepted⟩

end

end EntitySearch.Store
