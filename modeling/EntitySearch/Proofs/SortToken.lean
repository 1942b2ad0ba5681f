import EntitySearch.Proofs.Query

/-!
Sort tokens whose value has no bare comma. The value is cut after its escapes are removed, so that
an escaped comma ends the key like a bare one; just the values without any comma are read as one
key (`read_sort_eq_whole_iff`).
-/

namespace EntitySearch

open Text

namespace Text

theorem cutAt?_eq_none {p : Char → Bool} {cs : List Char} (h : ∀ c ∈ cs, p c = false) :
    cutAt? p cs = none := by
  induction cs with
  | nil => rfl
  | cons c cs ih =>
    obtain ⟨hc, hcs⟩ := List.forall_mem_cons.1 h
    rw [cutAt?, hc, ih hcs]
    rfl

theorem cutAt?_append {p : Char → Bool} {before after : List Char} {c : Char}
    (hbefore : ∀ d ∈ before, p d = false) (hc : p c = true) :
    cutAt? p (before ++ c :: after) = some (before, after) := by
  induction before with
  | nil => rw [List.nil_append, cutAt?, hc]; rfl
  | cons d before ih =>
    obtain ⟨hd, hbefore⟩ := List.forall_mem_cons.1 hbefore
    rw [List.cons_append, cutAt?, hd, ih hbefore]
    rfl

end Text

namespace Query

variable {α O C : Type} [DecidableEq O] [Key O] [Key C]

def sortToken (negated : Bool) (value : List Char) : List Char :=
  sign negated ++ ("sort".toList ++ ':' :: value)

/-- What a sort token says whose whole text is the key: an ascending order, turned round by the
minus sign, or the fault of a text that is no key. -/
def sortByWhole (negated : Bool) (key : List Char) : Except InputError (Filter O C) :=
  match Key.find? (String.ofList key) with
  | some k => .ok ⟨[], .ofList [(k, if negated then .descending else .ascending)]⟩
  | none => .error (.unknownKey (Key.noun O) (String.ofList key))

def sortByParts (negated : Bool) (key direction : List Char) : Except InputError (Filter O C) := do
  let k : O ← Key.read (String.ofList key)
  let d ← Direction.read (String.ofList direction)
  pure ⟨[], .ofList [(k, if negated then d.reversed else d)]⟩

variable (S : Schema α O C) (negated : Bool) {v u : List Char}

theorem isWord_sortToken (hblank : v.any isBlank = false) : IsWord (sortToken negated v) :=
  isWord_sign negated (isWord_append_colon isKeyName_sort.not_blank hblank)

omit [DecidableEq O] in
theorem readToken_sort (v : List Char) :
    readToken S (sortToken negated v) =
      (readSort v).map fun (k, d) => .order k (if negated then d.reversed else d) := by
  have hne : "sort".toList ++ ':' :: v ≠ [] := List.cons_ne_nil 's' _
  rw [sortToken, readToken_sign S negated hne (head?_append_colon isKeyName_sort.not_minus v),
    readBody_name S negated isKeyName_sort, if_pos String.ofList_toList]

theorem read_sort (hblank : v.any isBlank = false) :
    read S (String.ofList (sortToken negated v)) =
      (readSort v).map fun (k, d) => ⟨[], .ofList [(k, if negated then d.reversed else d)]⟩ := by
  rw [read_word S (isWord_sortToken negated hblank), readToken_sort]
  cases readSort (O := O) v <;> rfl

omit [DecidableEq O] [Key C] in
theorem readSort_of_not_mem (hu : unescape? v = some u) (hcomma : ',' ∉ u) :
    readSort v = (Key.read (String.ofList u)).map fun k : O => (k, .ascending) := by
  have hcut : cutAt? (· == ',') u = none := by
    apply cutAt?_eq_none
    intro c hc
    simpa using ne_of_mem_of_not_mem hc hcomma
  simp only [readSort, unescape, hu, Outcome.ok_bind, hcut]
  cases Key.read (K := O) (String.ofList u) <;> rfl

omit [DecidableEq O] [Key C] in
theorem readSort_of_append {key direction : List Char}
    (hu : unescape? v = some (key ++ ',' :: direction)) (hkey : ',' ∉ key) :
    readSort v = (Key.read (String.ofList key)).bind fun k : O =>
      (Direction.read (String.ofList direction)).map fun d => (k, d) := by
  have hcut : cutAt? (· == ',') (key ++ ',' :: direction) = some (key, direction) := by
    apply cutAt?_append _ (by decide)
    intro c hc
    simpa using ne_of_mem_of_not_mem hc hkey
  simp only [readSort, unescape, hu, Outcome.ok_bind, hcut]
  cases Key.read (K := O) (String.ofList key) with
  | error e => rfl
  | ok k => cases Direction.read (String.ofList direction) <;> rfl

theorem read_sort_of_not_mem (hblank : v.any isBlank = false) (hu : unescape? v = some u)
    (hcomma : ',' ∉ u) :
    read S (String.ofList (sortToken negated v)) = sortByWhole negated u := by
  rw [read_sort S negated hblank, readSort_of_not_mem hu hcomma, sortByWhole, Key.read]
  cases Key.find? (K := O) (String.ofList u) <;> cases negated <;> rfl

theorem read_sort_of_append (hblank : v.any isBlank = false) {key direction : List Char}
    (hu : unescape? v = some (key ++ ',' :: direction)) (hkey : ',' ∉ key) :
    read S (String.ofList (sortToken negated v)) = sortByParts negated key direction := by
  rw [read_sort S negated hblank, readSort_of_append hu hkey, sortByParts]
  cases Key.read (K := O) (String.ofList key) with
  | error e => rfl
  | ok k => cases Direction.read (String.ofList direction) <;> rfl

section Readings

variable {negated : Bool} {key direction : List Char} {f : Filter O C} {e : InputError}

omit [Key C]

theorem keys_of_sortByWhole (h : sortByWhole negated key = .ok f) :
    ∃ k : O, Key.name k = String.ofList key ∧ f.order.keys = [k] := by
  rw [sortByWhole] at h
  split at h
  · next k hk =>
    obtain rfl := Except.ok.inj h
    exact ⟨k, Key.find?_eq_some_iff.1 hk, rfl⟩
  · contradiction

theorem error_of_sortByWhole
    (h : sortByWhole negated key = (.error e : Except InputError (Filter O C))) :
    e = .unknownKey (Key.noun O) (String.ofList key) := by
  rw [sortByWhole] at h
  split at h
  · contradiction
  · exact (Except.error.inj h).symm

theorem keys_of_sortByParts (h : sortByParts negated key direction = .ok f) :
    ∃ k : O, Key.name k = String.ofList key ∧ f.order.keys = [k] := by
  obtain ⟨k, hk, h⟩ := Outcome.bind_eq_ok_iff.1 h
  obtain ⟨d, -, h⟩ := Outcome.bind_eq_ok_iff.1 h
  obtain rfl := Except.ok.inj h
  exact ⟨k, Key.read_eq_ok_iff.1 hk, rfl⟩

theorem error_of_sortByParts
    (h : sortByParts negated key direction = (.error e : Except InputError (Filter O C))) :
    e = .unknownKey (Key.noun O) (String.ofList key) ∨
      e = .direction (String.ofList direction) := by
  rw [sortByParts] at h
  cases hk : Key.read (K := O) (String.ofList key) with
  | error e' =>
    rw [hk] at h
    obtain rfl := Except.error.inj h
    exact .inl (Key.eq_of_read_eq_error hk)
  | ok k =>
    rw [hk, Outcome.ok_bind, Direction.read] at h
    split at h
    · contradiction
    · exact .inr (Except.error.inj h).symm

/-- The two readings of a text with a comma never agree, since they look for different keys. -/
theorem sortByParts_ne_sortByWhole :
    sortByParts negated key direction ≠
      (sortByWhole negated (key ++ ',' :: direction) : Except InputError (Filter O C)) := by
  have hne : String.ofList key ≠ String.ofList (key ++ ',' :: direction) := by
    intro h
    have hlength := congrArg List.length (String.ofList_injective h)
    rw [List.length_append, List.length_cons] at hlength
    omega
  intro h
  cases hwhole : sortByWhole (O := O) (C := C) negated (key ++ ',' :: direction) with
  | ok f =>
    rw [hwhole] at h
    obtain ⟨k, hk, hkeys⟩ := keys_of_sortByParts h
    obtain ⟨k', hk', hkeys'⟩ := keys_of_sortByWhole hwhole
    have hsame : k = k' := List.singleton_inj.1 (hkeys.symm.trans hkeys')
    rw [hsame] at hk
    exact hne (hk.symm.trans hk')
  | error e =>
    -- Both refuse, but the one reading names the text before the comma at most.
    rw [hwhole] at h
    have he := error_of_sortByWhole hwhole
    rcases error_of_sortByParts h with he' | he'
    · exact hne (InputError.unknownKey.inj (he'.symm.trans he)).2
    · exact InputError.noConfusion (he'.symm.trans he)

end Readings

/-- A sort token without a bare comma has its whole value for a key if and only if the value has
no escaped comma either; else the first escaped comma ends the key. -/
theorem read_sort_eq_whole_iff (hblank : v.any isBlank = false) (hu : unescape? v = some u)
    (hbare : .bare ',' ∉ glyphs v) :
    (read S (String.ofList (sortToken negated v)) = sortByWhole negated u ↔
      .escaped ',' ∉ glyphs v) ∧
    ∀ key direction, u = key ++ ',' :: direction → ',' ∉ key →
      read S (String.ofList (sortToken negated v)) = sortByParts negated key direction := by
  have hcomma : ',' ∈ u ↔ .escaped ',' ∈ glyphs v := by
    have hescapable : isEscapable ',' := by decide
    simp [mem_unescape?_iff hu, hbare, hescapable]
  have hparts (key direction : List Char) (hsplit : u = key ++ ',' :: direction)
      (hkey : ',' ∉ key) :
      read S (String.ofList (sortToken negated v)) = sortByParts negated key direction := by
    rw [hsplit] at hu
    exact read_sort_of_append S negated hblank hu hkey
  refine ⟨⟨fun h hescaped => ?_, fun hescaped => ?_⟩, hparts⟩
  · obtain ⟨key, direction, hsplit, hkey⟩ := List.eq_append_cons_of_mem (hcomma.2 hescaped)
    rw [hparts key direction hsplit hkey, hsplit] at h
    exact sortByParts_ne_sortByWhole h
  · exact read_sort_of_not_mem S negated hblank hu (mt hcomma.1 hescaped)

/-- The escaped comma of `name\,desc` cuts off a direction, though no key has a comma in it. -/
theorem read_sort_name_escaped_desc :
    unescape? "name\\,desc".toList = some "name,desc".toList ∧
      .bare ',' ∉ glyphs "name\\,desc".toList ∧ (∀ k : UserSort, Key.name k ≠ "name,desc") ∧
      read User.schema "sort:name\\,desc" = .ok ⟨[], .ofList [(.name, .descending)]⟩ ∧
      read User.schema "sort:name\\,desc" ≠ sortByWhole false "name,desc".toList := by
  have hread : read User.schema "sort:name\\,desc" = .ok ⟨[], .ofList [(.name, .descending)]⟩ := rfl
  refine ⟨rfl, by decide, fun k => ?_, hread, ?_⟩
  · cases k <;> decide
  · rw [hread]
    exact nofun

theorem read_sort_eq_whole_iff_user :
    "name".toList.any isBlank = false ∧ unescape? "name".toList = some "name".toList ∧
      .bare ',' ∉ glyphs "name".toList ∧ .escaped ',' ∉ glyphs "name".toList ∧
      read User.schema "-sort:name" = sortByWhole true "name".toList := by
  have hblank : "name".toList.any isBlank = false := by decide
  have hu : unescape? "name".toList = some "name".toList := rfl
  have hbare : .bare ',' ∉ glyphs "name".toList := by decide
  have hescaped : .escaped ',' ∉ glyphs "name".toList := by decide
  exact ⟨hblank, hu, hbare, hescaped,
    (read_sort_eq_whole_iff User.schema true hblank hu hbare).1.2 hescaped⟩

end Query

end EntitySearch
