import EntitySearch.Proofs.Sorting
import Mathlib.Data.List.Forall2

/-!
Outcomes that are either a value or a fault. Reading a list part by part gives the values of all
parts, in their sequence, when every part has one (`mapM_eq_ok_iff`); otherwise it gives the fault
of the first part that has none (`mapM_eq_error_iff`).
-/

namespace EntitySearch.Outcome

variable {ε α β : Type}

@[simp] theorem ok_bind (a : α) (f : α → Except ε β) : (Except.ok a >>= f) = f a := rfl

@[simp] theorem error_bind (e : ε) (f : α → Except ε β) :
    ((Except.error e : Except ε α) >>= f) = .error e := rfl

@[simp] theorem pure_eq_ok (a : α) : (pure a : Except ε α) = .ok a := rfl

theorem bind_eq_ok_iff {x : Except ε α} {f : α → Except ε β} {b : β} :
    (x >>= f) = .ok b ↔ ∃ a, x = .ok a ∧ f a = .ok b := by
  cases x <;> simp

theorem map_eq_ok_iff {x : Except ε α} {f : α → β} {b : β} :
    x.map f = .ok b ↔ ∃ a, x = .ok a ∧ f a = b := by
  cases x <;> simp [Except.map]

theorem exists_map_eq_ok_iff {x : Except ε α} {f : α → β} :
    (∃ b, x.map f = .ok b) ↔ ∃ a, x = .ok a := by
  cases x <;> simp [Except.map]

theorem map_eq_error_iff {x : Except ε α} {f : α → β} {e : ε} :
    x.map f = .error e ↔ x = .error e := by
  cases x <;> simp [Except.map]

theorem mapM_eq_ok_iff {f : α → Except ε β} {xs : List α} {ys : List β} :
    xs.mapM f = .ok ys ↔ List.Forall₂ (fun x y => f x = .ok y) xs ys := by
  induction xs generalizing ys with
  | nil => simp [List.forall₂_nil_left_iff, eq_comm]
  | cons x xs ih =>
    simp only [List.mapM_cons, bind_eq_ok_iff, List.forall₂_cons_left_iff, ih]
    constructor
    · intro h
      obtain ⟨y, hy, zs, hzs, h⟩ := h
      exact ⟨y, zs, hy, hzs, (Except.ok.inj h).symm⟩
    · intro h
      obtain ⟨y, zs, hy, hzs, rfl⟩ := h
      exact ⟨y, hy, zs, hzs, rfl⟩

theorem exists_of_mem_of_mapM {f : α → Except ε β} {xs : List α} {ys : List β}
    (h : xs.mapM f = .ok ys) {y : β} (hy : y ∈ ys) : ∃ x ∈ xs, f x = .ok y := by
  have hparts := mapM_eq_ok_iff.1 h
  clear h
  induction hparts with
  | nil => simp at hy
  | @cons x z xs zs hx _ ih =>
    rcases List.mem_cons.1 hy with rfl | hy
    · exact ⟨x, List.mem_cons_self, hx⟩
    · obtain ⟨w, hw, hwy⟩ := ih hy
      exact ⟨w, List.mem_cons_of_mem x hw, hwy⟩

theorem mem_of_mapM {f : α → Except ε β} {xs : List α} {ys : List β} (h : xs.mapM f = .ok ys)
    {x : α} (hx : x ∈ xs) {y : β} (hy : f x = .ok y) : y ∈ ys := by
  have hparts := mapM_eq_ok_iff.1 h
  clear h
  induction hparts with
  | nil => simp at hx
  | @cons w z xs zs hw _ ih =>
    rcases List.mem_cons.1 hx with rfl | hx
    · rw [hw] at hy
      rw [Except.ok.inj hy]
      exact List.mem_cons_self
    · exact List.mem_cons_of_mem z (ih hx)

theorem exists_mapM_eq_ok_iff {f : α → Except ε β} {xs : List α} :
    (∃ ys, xs.mapM f = .ok ys) ↔ ∀ x ∈ xs, ∃ y, f x = .ok y := by
  induction xs with
  | nil => simp
  | cons x xs ih =>
    rw [List.forall_mem_cons, ← ih]
    simp only [mapM_eq_ok_iff, List.forall₂_cons_left_iff]
    constructor
    · intro h
      obtain ⟨_, y, ys, hy, hys, -⟩ := h
      exact ⟨⟨y, hy⟩, ys, hys⟩
    · intro h
      obtain ⟨⟨y, hy⟩, ys, hys⟩ := h
      exact ⟨y :: ys, y, ys, hy, hys, rfl⟩

theorem forM_eq_ok_iff {f : α → Except ε Unit} {xs : List α} :
    xs.forM f = .ok ⟨⟩ ↔ ∀ x ∈ xs, f x = .ok ⟨⟩ := by
  induction xs with
  | nil => simp [List.forM]
  | cons x xs ih =>
    change (f x >>= fun _ => xs.forM f) = .ok ⟨⟩ ↔ _
    rw [bind_eq_ok_iff, List.forall_mem_cons, ih]
    constructor
    · intro h
      obtain ⟨_, hx, hxs⟩ := h
      exact ⟨hx, hxs⟩
    · intro h
      exact ⟨_, h⟩

theorem mapM_map_comm {γ : Type} (f : α → Except ε β) (g : β → γ) (xs : List α) :
    xs.mapM (fun x => (f x).map g) = (xs.mapM f).map (List.map g) := by
  induction xs with
  | nil => rfl
  | cons x xs ih =>
    rw [List.mapM_cons, List.mapM_cons, ih]
    cases f x with
    | error e => rfl
    | ok y => cases xs.mapM f <;> rfl

theorem exists_fault_of_mapM_eq_error {f : α → Except ε β} {xs : List α} {e : ε}
    (h : xs.mapM f = .error e) : ∃ before x after, xs = before ++ x :: after ∧
      (∀ y ∈ before, ∃ b, f y = .ok b) ∧ f x = .error e := by
  induction xs with
  | nil => contradiction
  | cons x xs ih =>
    rw [List.mapM_cons] at h
    cases hx : f x with
    | error e' =>
      rw [hx] at h
      refine ⟨[], x, xs, rfl, by simp, ?_⟩
      rw [hx, Except.error.inj h]
    | ok b =>
      have hrest : xs.mapM f = .error e := by
        rw [hx, ok_bind] at h
        cases hxs : xs.mapM f with
        | error e' => rw [hxs] at h; rw [Except.error.inj h]
        | ok ys => rw [hxs] at h; contradiction
      obtain ⟨before, y, after, rfl, hbefore, hy⟩ := ih hrest
      exact ⟨x :: before, y, after, rfl, List.forall_mem_cons.2 ⟨⟨b, hx⟩, hbefore⟩, hy⟩

/-- The first part with a fault decides. -/
theorem mapM_eq_error_iff {f : α → Except ε β} {xs : List α} {e : ε} :
    xs.mapM f = .error e ↔ ∃ before x after, xs = before ++ x :: after ∧
      (∀ y ∈ before, ∃ b, f y = .ok b) ∧ f x = .error e := by
  constructor
  · exact exists_fault_of_mapM_eq_error
  · intro h
    obtain ⟨before, x, after, rfl, hbefore, hx⟩ := h
    obtain ⟨ys, hys⟩ := exists_mapM_eq_ok_iff.2 hbefore
    rw [List.mapM_append, hys, ok_bind, List.mapM_cons, hx]
    rfl

/-- Whatever the outcome, it is no fault but one of these. -/
def FailsOnly (P : ε → Prop) (x : Except ε α) : Prop := ∀ e, x = .error e → P e

namespace FailsOnly

variable {P : ε → Prop} {x : Except ε α}

theorem ok (a : α) : FailsOnly P (.ok a) := nofun

theorem error {e : ε} (he : P e) : FailsOnly P (.error e : Except ε α) := by
  intro e' h
  exact Except.error.inj h ▸ he

theorem bind {f : α → Except ε β} (hx : FailsOnly P x) (hf : ∀ a, FailsOnly P (f a)) :
    FailsOnly P (x >>= f) := by
  cases x with
  | error e => exact error (hx e rfl)
  | ok a => exact hf a

theorem map (hx : FailsOnly P x) (f : α → β) : FailsOnly P (x.map f) := by
  intro e h
  exact hx e (map_eq_error_iff.1 h)

theorem mapM {f : α → Except ε β} (hf : ∀ a, FailsOnly P (f a)) (xs : List α) :
    FailsOnly P (xs.mapM f) := by
  intro e h
  obtain ⟨_, a, _, -, -, ha⟩ := mapM_eq_error_iff.1 h
  exact hf a e ha

end FailsOnly

section

variable {cmp : α → α → Ordering} [Std.TransCmp cmp]

/-- Of parts that are read in sorted sequence, the least one with a fault decides. -/
theorem mapM_mergeSort_eq_error_iff {f : α → Except ε β} {xs : List α} {e : ε} (hnodup : xs.Nodup)
    (hdistinct : ∀ a ∈ xs, ∀ b ∈ xs, cmp a b = .eq → a = b) :
    (xs.mergeSort fun a b => (cmp a b).isLE).mapM f = .error e ↔
      ∃ x ∈ xs, f x = .error e ∧ ∀ y ∈ xs, cmp y x = .lt → ∃ b, f y = .ok b := by
  have hperm : (xs.mergeSort fun a b => (cmp a b).isLE).Perm xs := List.mergeSort_perm xs _
  have hsorted : (xs.mergeSort fun a b => (cmp a b).isLE).Pairwise fun a b => (cmp a b).isLE :=
    Sorting.pairwise_mergeSort_isLE xs
  rw [mapM_eq_error_iff]
  constructor
  · intro h
    obtain ⟨before, x, after, hxs, hbefore, hx⟩ := h
    rw [hxs] at hperm hsorted
    refine ⟨x, hperm.mem_iff.1 (by simp), hx, ?_⟩
    intro y hy hlt
    have hafter : ∀ z ∈ x :: after, (cmp x z).isLE := by
      rw [List.forall_mem_cons]
      exact ⟨Std.ReflCmp.isLE_rfl,
        (List.pairwise_cons.1 (List.pairwise_append.1 hsorted).2.1).1⟩
    rcases List.mem_append.1 (hperm.mem_iff.2 hy) with hy | hy
    · exact hbefore y hy
    · exact absurd (hafter y hy) (Std.OrientedCmp.not_isLE_of_lt hlt)
  · intro h
    obtain ⟨x, hx, hfault, hless⟩ := h
    obtain ⟨before, after, hxs⟩ := List.append_of_mem (hperm.mem_iff.2 hx)
    rw [hxs] at hperm hsorted
    refine ⟨before, x, after, hxs, ?_, hfault⟩
    intro y hy
    have hyx : (cmp y x).isLE := (List.pairwise_append.1 hsorted).2.2 y hy x (by simp)
    have hmem : y ∈ xs := hperm.mem_iff.1 (List.mem_append.2 (.inl hy))
    -- What stands before `x` is not `x` itself, since no part stands twice.
    have hne : y ≠ x := (List.nodup_append.1 (hperm.nodup_iff.2 hnodup)).2.2 y hy x (by simp)
    apply hless y hmem
    cases hcmp : cmp y x with
    | lt => rfl
    | eq => exact absurd (hdistinct y hmem x hx hcmp) hne
    | gt =>
      rw [hcmp] at hyx
      contradiction

end

theorem mapM_eq_some_iff {f : α → Option β} {xs : List α} {ys : List β} :
    xs.mapM f = some ys ↔ xs.map f = ys.map some := by
  induction xs generalizing ys with
  | nil => cases ys <;> simp
  | cons x xs ih =>
    cases hx : f x with
    | none => cases ys <;> simp [List.mapM_cons, hx]
    | some y =>
      cases hys : xs.mapM f with
      | none => cases ys <;> simp [List.mapM_cons, hx, hys, ← ih]
      | some zs => cases ys <;> simp [List.mapM_cons, hx, hys, ← ih]

theorem mapM_eq_none_iff {f : α → Option β} {xs : List α} :
    xs.mapM f = none ↔ ∃ x ∈ xs, f x = none := by
  induction xs with
  | nil => simp
  | cons x xs ih =>
    rw [List.exists_mem_cons_iff, ← ih, List.mapM_cons]
    cases f x with
    | none => simp
    | some y => cases xs.mapM f <;> simp

end EntitySearch.Outcome
