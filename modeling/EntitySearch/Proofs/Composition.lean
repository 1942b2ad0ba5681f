import EntitySearch.Proofs.Insertion
import EntitySearch.Proofs.Query

/-!
Query text piece by piece. Two texts with a blank between them are read as the one followed by the
other, so what a token says depends on no other token; sort tokens and criterion tokens may change
places, and the first token that cannot be read decides the fault (`read_append_space`).
-/

namespace EntitySearch

variable {α O C : Type} [DecidableEq O]

/-- All requirements of both filters, and the order of the first with the pairs of the second
pushed onto it. -/
def Filter.followedBy (f g : Filter O C) : Filter O C :=
  ⟨f.requirements ++ g.requirements, f.order.insertAll g.order.entries⟩

theorem Filter.followedBy_right_comm (f : Filter O C) {g h : Filter O C}
    (hg : g.requirements = []) (hh : h.order = .empty) :
    (f.followedBy g).followedBy h = (f.followedBy h).followedBy g := by
  have hnone (m : SortOrder O) : m.insertAll (InsertionMap.empty : SortOrder O).entries = m := rfl
  simp only [followedBy, hg, hh, hnone, List.append_nil]

namespace Query

open Text

/-- The token has a key, and the key is `sort` once its escapes are removed and its letters are
in lower case. All other tokens are criterion tokens. -/
def IsSortToken (token : List Char) : Prop :=
  ∃ key value name, cutBare? [':'] (takeMinus token).2 = some (key, value) ∧
    unescape? key = some name ∧ lowerAscii name = "sort".toList

theorem ofItems_append (xs ys : List (Item O C)) :
    ofItems (xs ++ ys) = (ofItems xs).followedBy (ofItems ys) := by
  simp only [ofItems, Filter.followedBy, List.filterMap_append, InsertionMap.ofList_append]

variable [Key O] [Key C] (S : Schema α O C)

theorem read_append (a b : String) :
    read S (a ++ " " ++ b) =
      (do let f ← read S a; let g ← read S b; pure (f.followedBy g)) := by
  have hwords : words (a ++ " " ++ b).toList = words a.toList ++ words b.toList := by
    have hspace : " ".toList = [' '] := rfl
    rw [String.toList_append, String.toList_append, hspace, List.append_assoc]
    exact words_append_blank (by decide) a.toList b.toList
  rw [read, hwords, List.mapM_append, read, read]
  cases (words a.toList).mapM (readToken S) with
  | error e => rfl
  | ok xs =>
    cases (words b.toList).mapM (readToken S) with
    | error e => rfl
    | ok ys => exact congrArg Except.ok (ofItems_append xs ys)

section Token

variable {S}

omit [DecidableEq O]

/-- Sort tokens write a pair of an order and criterion tokens a requirement, if they are read. -/
theorem requirement?_eq_none_iff {token : List Char} {item : Item O C}
    (h : readToken S token = .ok item) : requirement? item = none ↔ IsSortToken token := by
  change readBody S (takeMinus token).1 (takeMinus token).2 = .ok item at h
  cases hcut : cutBare? [':'] (takeMinus token).2 with
  | none =>
    have hsort : ¬ IsSortToken token := by
      rintro ⟨key, value, name, hcut', -⟩
      rw [hcut] at hcut'
      contradiction
    rw [readBody, hcut] at h
    cases hkeyless : S.keyless with
    | none =>
      rw [hkeyless] at h
      contradiction
    | some k =>
      rw [hkeyless] at h
      obtain rfl := Except.ok.inj h
      exact iff_of_false (Option.some_ne_none _) hsort
  | some parts =>
    obtain ⟨key, value⟩ := parts
    cases hname : unescape? key with
    | none =>
      rw [readBody, hcut] at h
      simp only [unescape, hname, Outcome.error_bind] at h
      contradiction
    | some name =>
      have hsort : IsSortToken token ↔ String.ofList (lowerAscii name) = "sort" := by
        rw [← String.toList_inj, String.toList_ofList, IsSortToken]
        simp [hcut, hname]
      rw [readBody_of_cut S _ hcut hname] at h
      split at h
      · next hs =>
        obtain ⟨pair, -, rfl⟩ := Outcome.map_eq_ok_iff.1 h
        exact iff_of_true rfl (hsort.2 hs)
      · next hs =>
        obtain ⟨k, -, rfl⟩ := Outcome.map_eq_ok_iff.1 h
        exact iff_of_false (Option.some_ne_none _) (mt hsort.1 hs)

end Token

section Texts

variable {S} {s c : String} {f : Filter O C}

theorem read_append_eq_ok_iff {a b : String} :
    read S (a ++ " " ++ b) = .ok f ↔
      ∃ g h, read S a = .ok g ∧ read S b = .ok h ∧ g.followedBy h = f := by
  rw [read_append]
  constructor
  · intro hread
    obtain ⟨g, hg, hread⟩ := Outcome.bind_eq_ok_iff.1 hread
    obtain ⟨h, hh, hread⟩ := Outcome.bind_eq_ok_iff.1 hread
    exact ⟨g, h, hg, hh, Except.ok.inj hread⟩
  · intro hread
    obtain ⟨g, h, hg, hh, rfl⟩ := hread
    rw [hg, hh]
    rfl

theorem exists_item_of_read (hs : IsWord s.toList) (h : read S s = .ok f) :
    ∃ item, readToken S s.toList = .ok item ∧ ofItems [item] = f := by
  have hword := read_word S hs
  rw [String.ofList_toList, h] at hword
  exact Outcome.map_eq_ok_iff.1 hword.symm

theorem requirements_of_read_sort (hs : IsWord s.toList) (hsort : IsSortToken s.toList)
    (h : read S s = .ok f) : f.requirements = [] := by
  obtain ⟨item, hitem, rfl⟩ := exists_item_of_read hs h
  have hnone : requirement? item = none := (requirement?_eq_none_iff hitem).2 hsort
  simp [ofItems, hnone]

theorem order_of_read_criterion (hc : IsWord c.toList) (hcriterion : ¬ IsSortToken c.toList)
    (h : read S c = .ok f) : f.order = .empty := by
  obtain ⟨item, hitem, rfl⟩ := exists_item_of_read hc h
  have hsome : requirement? item ≠ none := mt (requirement?_eq_none_iff hitem).1 hcriterion
  cases item with
  | requirement r => rfl
  | order k d => exact absurd rfl hsome

theorem read_swap (hs : ∀ g, read S s = .ok g → g.requirements = [])
    (hc : ∀ g, read S c = .ok g → g.order = .empty) (a b : String) :
    read S (a ++ " " ++ s ++ " " ++ c ++ " " ++ b) = .ok f ↔
      read S (a ++ " " ++ c ++ " " ++ s ++ " " ++ b) = .ok f := by
  simp only [read_append_eq_ok_iff]
  constructor
  · rintro ⟨_, fb, ⟨_, fc, ⟨fa, fs, ha, hsort, rfl⟩, hcriterion, rfl⟩, hb, rfl⟩
    refine ⟨_, fb, ⟨_, fs, ⟨fa, fc, ha, hcriterion, rfl⟩, hsort, rfl⟩, hb, ?_⟩
    rw [Filter.followedBy_right_comm fa (hs fs hsort) (hc fc hcriterion)]
  · rintro ⟨_, fb, ⟨_, fs, ⟨fa, fc, ha, hcriterion, rfl⟩, hsort, rfl⟩, hb, rfl⟩
    refine ⟨_, fb, ⟨_, fc, ⟨fa, fs, ha, hsort, rfl⟩, hcriterion, rfl⟩, hb, ?_⟩
    rw [Filter.followedBy_right_comm fa (hs fs hsort) (hc fc hcriterion)]

theorem read_eq_error_iff {e : InputError} :
    read S s = .error e ↔ ∃ before token after, words s.toList = before ++ token :: after ∧
      (∀ t ∈ before, ∃ g, read S (String.ofList t) = .ok g) ∧
      read S (String.ofList token) = .error e := by
  -- Each token alone is read as it is read among the others.
  have hok {t : List Char} (ht : t ∈ words s.toList) :
      (∃ item, readToken S t = .ok item) ↔ ∃ g, read S (String.ofList t) = .ok g := by
    rw [read_word S (isWord_of_mem_words ht)]
    cases readToken S t <;> simp [Except.map]
  have herror {t : List Char} (ht : t ∈ words s.toList) :
      readToken S t = .error e ↔ read S (String.ofList t) = .error e := by
    rw [read_word S (isWord_of_mem_words ht)]
    cases readToken S t <;> simp [Except.map]
  have hread : read S s = .error e ↔ (words s.toList).mapM (readToken S) = .error e := by
    rw [read]
    cases (words s.toList).mapM (readToken S) <;> simp [Except.map]
  rw [hread, Outcome.mapM_eq_error_iff]
  constructor
  · rintro ⟨before, token, after, hwords, hbefore, htoken⟩
    have hmem : ∀ t ∈ before ++ token :: after, t ∈ words s.toList := fun t ht => hwords ▸ ht
    refine ⟨before, token, after, hwords, fun t ht => ?_, ?_⟩
    · exact (hok (hmem t (List.mem_append_left _ ht))).1 (hbefore t ht)
    · exact (herror (hmem token (by simp))).1 htoken
  · rintro ⟨before, token, after, hwords, hbefore, htoken⟩
    have hmem : ∀ t ∈ before ++ token :: after, t ∈ words s.toList := fun t ht => hwords ▸ ht
    refine ⟨before, token, after, hwords, fun t ht => ?_, ?_⟩
    · exact (hok (hmem t (List.mem_append_left _ ht))).2 (hbefore t ht)
    · exact (herror (hmem token (by simp))).2 htoken

end Texts

/-- A text of two parts is read part by part, the first fault being the fault of the whole. A sort
token and a criterion token next to it may change places, and the fault of a text is always that of
its first token that cannot be read alone. -/
theorem read_append_space :
    (∀ a b : String, read S (a ++ " " ++ b) =
      match read S a, read S b with
      | .error e, _ => .error e
      | .ok _, .error e => .error e
      | .ok f, .ok g => .ok ⟨f.requirements ++ g.requirements, f.order.insertAll g.order.entries⟩) ∧
    (∀ a b s c : String, IsWord s.toList → IsSortToken s.toList → IsWord c.toList →
      ¬ IsSortToken c.toList → ∀ f, read S (a ++ " " ++ s ++ " " ++ c ++ " " ++ b) = .ok f ↔
        read S (a ++ " " ++ c ++ " " ++ s ++ " " ++ b) = .ok f) ∧
    ∀ s e, read S s = .error e ↔
      ∃ before token after, words s.toList = before ++ token :: after ∧
        (∀ t ∈ before, ∃ g, read S (String.ofList t) = .ok g) ∧
        read S (String.ofList token) = .error e := by
  refine ⟨fun a b => ?_, fun a b s c hs hsort hc hcriterion f => ?_, fun s e => read_eq_error_iff⟩
  · rw [read_append]
    cases read S a with
    | error e => rfl
    | ok f => cases read S b <;> rfl
  · apply read_swap
    · intro g hg
      exact requirements_of_read_sort hs hsort hg
    · intro g hg
      exact order_of_read_criterion hc hcriterion hg

theorem read_append_space_post :
    let s := "-SORT:score"
    let c := "-cat"
    IsWord s.toList ∧ IsSortToken s.toList ∧ IsWord c.toList ∧ ¬ IsSortToken c.toList ∧
      ∀ f, read Post.schema ("sort:score,desc" ++ " " ++ s ++ " " ++ c ++ " " ++ "sort:tag_count") =
          .ok f ↔
        read Post.schema ("sort:score,desc" ++ " " ++ c ++ " " ++ s ++ " " ++ "sort:tag_count") =
          .ok f := by
  intro s c
  have hs : IsWord s.toList := by
    constructor <;> decide
  have hsort : IsSortToken s.toList :=
    ⟨"SORT".toList, "score".toList, "SORT".toList, by decide, by decide, by decide⟩
  have hc : IsWord c.toList := by
    constructor <;> decide
  have hcriterion : ¬ IsSortToken c.toList := by
    rintro ⟨key, value, name, hcut, -⟩
    have hnone : cutBare? [':'] (takeMinus c.toList).2 = none := by decide
    rw [hnone] at hcut
    contradiction
  obtain ⟨-, hswap, -⟩ := read_append_space Post.schema
  exact ⟨hs, hsort, hc, hcriterion,
    hswap "sort:score,desc" "sort:tag_count" s c hs hsort hc hcriterion⟩

end Query

end EntitySearch
