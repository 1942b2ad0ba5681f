import EntitySearch.Proofs.SortToken

/-!
The ways in which a filter can be written. Requirements and pairs of an order, each as one token and
with blanks between them, are read back as they were meant and in their sequence; a token without a
key is short for the same token under the keyless criterion (`readsBack_written`).
-/

namespace EntitySearch

open Text

namespace Text

/-- Words with blanks between them, and any blanks at either end. -/
inductive Joined : List (List Char) → List Char → Prop
  | nil : Joined [] []
  | blank {c : Char} {ts : List (List Char)} {s : List Char} (hc : isBlank c = true)
      (h : Joined ts s) : Joined ts (c :: s)
  | last (t : List Char) : Joined [t] t
  | next {t : List Char} {c : Char} {ts : List (List Char)} {s : List Char}
      (hc : isBlank c = true) (h : Joined ts s) : Joined (t :: ts) (t ++ c :: s)

theorem words_of_joined {ts : List (List Char)} {s : List Char} (h : Joined ts s)
    (hts : ∀ t ∈ ts, IsWord t) : words s = ts := by
  induction h with
  | nil => rfl
  | blank hc _ ih => exact (words_append_blank hc [] _).trans (ih hts)
  | last t => exact (hts t (List.mem_singleton_self t)).words_eq
  | next hc _ ih =>
    obtain ⟨ht, hts⟩ := List.forall_mem_cons.1 hts
    rw [words_append_blank hc, ht.words_eq, ih hts]
    rfl

end Text

/-- A short or long name of the direction, in any letter case. -/
def Direction.IsNamed (d : Direction) (word : List Char) : Prop :=
  lowerAscii word = d.shortName.toList ∨ lowerAscii word = d.longName.toList

theorem Direction.read_of_isNamed {d : Direction} {word : List Char} (h : d.IsNamed word) :
    Direction.read (String.ofList word) = .ok d := by
  have hname : ofName? (String.ofList (lowerAscii word)) = some d := by
    rcases h with h | h <;> rw [h, String.ofList_toList] <;> cases d <;> decide
  rw [Direction.read, String.toList_ofList, hname]

theorem Direction.read_eq_ok_iff {d : Direction} {word : List Char} :
    Direction.read (String.ofList word) = .ok d ↔ d.IsNamed word := by
  refine ⟨fun h => ?_, read_of_isNamed⟩
  rw [Direction.read, String.toList_ofList] at h
  split at h
  · next d' hname =>
    obtain rfl := Except.ok.inj h
    have hd := List.find?_some hname
    simp only [Bool.or_eq_true, beq_iff_eq, ← String.toList_inj, String.toList_ofList] at hd
    exact hd.imp Eq.symm Eq.symm
  · contradiction

namespace Query

/-- A name that the value of a sort token may begin with and that is then read as it is
written. -/
structure IsSortName (name : List Char) : Prop where
  not_blank : name.any isBlank = false
  not_escape : '\\' ∉ name
  not_comma : ',' ∉ name

variable {α O C : Type} [Key O] [Key C]

/-- How an item is written: a requirement by its key, in any letter case, and a value, a pair of an
order by its key and a direction; a minus sign negates the one and reverses the other. -/
inductive Writes : Item O C → List Char → Prop
  | requirement (k : C) (spelling value : List Char) (negated : Bool)
      (hspelling : lowerAscii spelling = (Key.name k).toList)
      (hvalue : value.any isBlank = false) :
      Writes (.requirement ⟨k, .ofText (String.ofList value), negated⟩)
        (sign negated ++ (spelling ++ ':' :: value))
  | order (k : O) (d : Direction) (word : List Char) (negated : Bool) (hword : d.IsNamed word) :
      Writes (.order k (if negated then d.reversed else d))
        (sortToken negated ((Key.name k).toList ++ ',' :: word))

variable [DecidableEq O] (S : Schema α O C)

/-- What is written is read back, item by item, and a token without a key is read like the same
token under the keyless criterion, whatever tokens stand around it. -/
def ReadsBack : Prop :=
  (∀ (items : List (Item O C)) tokens s, List.Forall₂ Writes items tokens → Joined tokens s →
    read S (String.ofList s) =
      .ok ⟨items.filterMap requirement?, .ofList (items.filterMap orderPair?)⟩) ∧
  ∀ n, S.keyless = some n → ∀ t, IsWord t → .bare ':' ∉ glyphs t → t.head? ≠ some '-' →
    ∀ negated before after s s', (∀ t' ∈ before ++ after, IsWord t') →
      Joined (before ++ (sign negated ++ t) :: after) s →
      Joined (before ++ (sign negated ++ ((Key.name n).toList ++ ':' :: t)) :: after) s' →
        read S (String.ofList s) = read S (String.ofList s')

section Names

omit [DecidableEq O]

variable {S} {item : Item O C} {token : List Char}

theorem not_blank_and_not_escape_of_isNamed {d : Direction} {word : List Char}
    (h : d.IsNamed word) : word.any isBlank = false ∧ '\\' ∉ word := by
  have hname {name : List Char} (hname : lowerAscii word = name)
      (hblank : name.any isBlank = false) (hescape : '\\' ∉ name) :
      word.any isBlank = false ∧ '\\' ∉ word := by
    subst hname
    refine ⟨not_blank_of_lowerAscii hblank, fun hmem => ?_⟩
    exact hescape (mem_lowerAscii (by decide) hmem)
  rcases h with h | h <;> apply hname h <;> cases d <;> decide

theorem isWord_of_writes (hfields : ∀ k : C, IsKeyName (Key.name k).toList)
    (hsorts : ∀ k : O, IsSortName (Key.name k).toList) (h : Writes item token) : IsWord token := by
  cases h with
  | requirement k spelling value negated hspelling hvalue =>
    obtain ⟨hblank, -⟩ := isPlain_spelling (hfields k) hspelling
    exact isWord_sign negated (isWord_append_colon hblank hvalue)
  | order k d word negated hword =>
    apply isWord_sortToken
    rw [List.any_append, List.any_cons, (hsorts k).not_blank,
      (not_blank_and_not_escape_of_isNamed hword).1]
    decide

theorem readSort_pair {k : O} {d : Direction} {word : List Char}
    (hname : IsSortName (Key.name k).toList) (hword : d.IsNamed word) :
    readSort ((Key.name k).toList ++ ',' :: word) = .ok (k, d) := by
  have hescape : '\\' ∉ (Key.name k).toList ++ ',' :: word := by
    simp [hname.not_escape, (not_blank_and_not_escape_of_isNamed hword).2]
  rw [readSort_of_append (unescape?_of_plain hescape) hname.not_comma, String.ofList_toList,
    Key.read_eq_ok_iff.2 rfl, Direction.read_of_isNamed hword]
  rfl

theorem readToken_of_writes
    (hfields : ∀ k : C, IsKeyName (Key.name k).toList ∧ Key.name k ≠ "sort")
    (hsorts : ∀ k : O, IsSortName (Key.name k).toList) (h : Writes item token) :
    readToken S token = .ok item := by
  cases h with
  | requirement k spelling value negated hspelling hvalue =>
    obtain ⟨hname, hsort⟩ := hfields k
    obtain ⟨-, -, -, hminus⟩ := isPlain_spelling hname hspelling
    have hne : spelling ++ ':' :: value ≠ [] := by simp
    rw [readToken_sign S negated hne (head?_append_colon hminus value),
      readBody_spelling S negated hname hspelling hsort]
  | order k d word negated hword =>
    rw [readToken_sort, readSort_pair (hsorts k) hword]
    rfl

end Names

section ReadsBack

variable {S}

theorem read_joined {tokens : List (List Char)} {s : List Char} (h : Joined tokens s)
    (hwords : ∀ t ∈ tokens, IsWord t) :
    read S (String.ofList s) = (tokens.mapM (readToken S)).map ofItems := by
  rw [read, String.toList_ofList, words_of_joined h hwords]

omit [DecidableEq O] in
theorem readToken_keyless {n : C} (hname : IsKeyName (Key.name n).toList)
    (hsort : Key.name n ≠ "sort") (hn : S.keyless = some n) {t : List Char} (ht : IsWord t)
    (hcolon : .bare ':' ∉ glyphs t) (hminus : t.head? ≠ some '-') (negated : Bool) :
    readToken S (sign negated ++ t) =
      readToken S (sign negated ++ ((Key.name n).toList ++ ':' :: t)) := by
  have hcut : cutBare? [':'] t = none := by
    rw [cutBare?, cutGlyphs?_eq_none [] hcolon]
    rfl
  have hne : (Key.name n).toList ++ ':' :: t ≠ [] := by simp
  rw [readToken_sign S negated ht.ne_nil hminus, readBody_keyless S negated hn hcut,
    readToken_sign S negated hne (head?_append_colon hname.not_minus t),
    readBody_key S negated hname hsort]

theorem readsBack_of_names
    (hfields : ∀ k : C, IsKeyName (Key.name k).toList ∧ Key.name k ≠ "sort")
    (hsorts : ∀ k : O, IsSortName (Key.name k).toList) : ReadsBack S := by
  have hnames (k : C) : IsKeyName (Key.name k).toList := (hfields k).1
  constructor
  · intro items tokens s hwritten hjoined
    have hread : List.Forall₂ (fun token item => IsWord token ∧ readToken S token = .ok item)
        tokens items := by
      apply hwritten.flip.imp
      intro token item hitem
      exact ⟨isWord_of_writes hnames hsorts hitem, readToken_of_writes hfields hsorts hitem⟩
    obtain ⟨hwords, hread⟩ := (List.forall₂_and_left tokens items).1 hread
    rw [read_joined hjoined hwords, Outcome.mapM_eq_ok_iff.2 hread]
    rfl
  · intro n hn t ht hcolon hminus negated before after s s' haround hs hs'
    obtain ⟨hname, hsort⟩ := hfields n
    have hwords {token : List Char} (htoken : IsWord token) :
        ∀ t' ∈ before ++ token :: after, IsWord t' := by
      intro t' ht'
      rcases List.mem_append.1 ht' with h | h
      · exact haround t' (List.mem_append_left _ h)
      · rcases List.mem_cons.1 h with rfl | h
        · exact htoken
        · exact haround t' (List.mem_append_right _ h)
    have hshort : IsWord (sign negated ++ t) := isWord_sign negated ht
    have hlong : IsWord (sign negated ++ ((Key.name n).toList ++ ':' :: t)) :=
      isWord_sign negated (isWord_append_colon hname.not_blank ht.not_blank)
    rw [read_joined hs (hwords hshort), read_joined hs' (hwords hlong), List.mapM_append,
      List.mapM_append, List.mapM_cons, List.mapM_cons,
      readToken_keyless hname hsort hn ht hcolon hminus negated]

end ReadsBack

theorem isSortName_userSort (k : UserSort) : IsSortName (Key.name k).toList := by
  cases k <;> constructor <;> decide

theorem isSortName_tagSort (k : TagSort) : IsSortName (Key.name k).toList := by
  cases k <;> constructor <;> decide

theorem isSortName_postSort (k : PostSort) : IsSortName (Key.name k).toList := by
  cases k <;> constructor <;> decide

/-- Every type of entity whose keys have plain names, as those of all types here have, can be
searched for whatever can be written down. -/
theorem readsBack_written :
    (∀ {α O C : Type} [DecidableEq O] [Key O] [Key C] (S : Schema α O C),
      (∀ k : C, IsKeyName (Key.name k).toList ∧ Key.name k ≠ "sort") →
      (∀ k : O, IsSortName (Key.name k).toList) → ReadsBack S) ∧
    ReadsBack User.schema ∧ ReadsBack Tag.schema ∧ ReadsBack Post.schema := by
  refine ⟨fun S => readsBack_of_names,
    readsBack_of_names (fun k => ⟨isKeyName_userField k, ?_⟩) isSortName_userSort,
    readsBack_of_names (fun k => ⟨isKeyName_tagField k, ?_⟩) isSortName_tagSort,
    readsBack_of_names (fun k => ⟨isKeyName_postField k, ?_⟩) isSortName_postSort⟩
  -- No criterion key is called like the sort tokens.
  · cases k <;> decide
  · cases k <;> decide
  · cases k <;> decide

/-- The value `a:b,-\` keeps its colon, its minus sign and the backslash at its end. -/
theorem readsBack_written_post :
    let items : List (Item PostSort PostField) :=
      [.requirement ⟨.tag, .ofText "a:b,-\\", true⟩, .order .score .ascending]
    let tokens := ["-TAG:a:b,-\\".toList, "-sort:score,DESC".toList]
    List.Forall₂ Writes items tokens ∧
      Joined tokens " -TAG:a:b,-\\\t\n-sort:score,DESC".toList ∧
      read Post.schema " -TAG:a:b,-\\\t\n-sort:score,DESC" =
        .ok ⟨[⟨.tag, .ofText "a:b,-\\", true⟩], .ofList [(.score, .ascending)]⟩ := by
  intro items tokens
  have htag : Writes (O := PostSort) (.requirement ⟨PostField.tag, .ofText "a:b,-\\", true⟩)
      "-TAG:a:b,-\\".toList :=
    .requirement PostField.tag "TAG".toList "a:b,-\\".toList true (by decide) (by decide)
  have hsort : Writes (C := PostField) (.order PostSort.score .ascending)
      "-sort:score,DESC".toList :=
    .order PostSort.score .descending "DESC".toList true (.inl (by decide))
  have hwritten : List.Forall₂ Writes items tokens := .cons htag (.cons hsort .nil)
  have hjoined : Joined tokens " -TAG:a:b,-\\\t\n-sort:score,DESC".toList :=
    .blank (by decide) (.next (t := "-TAG:a:b,-\\".toList) (by decide)
      (.blank (by decide) (.last "-sort:score,DESC".toList)))
  exact ⟨hwritten, hjoined, readsBack_written.2.2.2.1 items tokens _ hwritten hjoined⟩

end Query

end EntitySearch
