import EntitySearch.Post
import EntitySearch.Query
import EntitySearch.Tag
import EntitySearch.User
import EntitySearch.Proofs.Escape
import EntitySearch.Proofs.Outcome

/-!
Single tokens of query text. A token is read as it stands between its minus sign and its first bare
colon; the names that the keys of all entity types have are read as those keys (`readBody_key`).
-/

namespace EntitySearch

namespace Text

structure IsWord (t : List Char) : Prop where
  ne_nil : t ≠ []
  not_blank : t.any isBlank = false

theorem IsWord.words_eq {t : List Char} (h : IsWord t) : words t = [t] := by
  have hsplit : t.splitOnP isBlank = [t] := by
    apply List.splitOnP_eq_singleton
    simpa using h.not_blank
  rw [words, hsplit]
  simp [h.ne_nil]

theorem words_append_blank {c : Char} (hc : isBlank c = true) (s t : List Char) :
    words (s ++ c :: t) = words s ++ words t := by
  rw [words, List.splitOnP_append_cons s t hc, List.filter_append]
  rfl

theorem any_of_mem_splitOnP {p : Char → Bool} {s t : List Char} (h : t ∈ s.splitOnP p) :
    t.any p = false := by
  induction s generalizing t with
  | nil =>
    rw [List.splitOnP_nil, List.mem_singleton] at h
    rw [h]
    rfl
  | cons c s ih =>
    rw [List.splitOnP_cons_eq_if_modifyHead] at h
    split at h
    · rcases List.mem_cons.1 h with rfl | h
      · rfl
      · exact ih h
    · next hc =>
      -- The character joins the first part of the rest.
      obtain ⟨first, others, hrest⟩ := List.exists_cons_of_ne_nil (List.splitOnP_ne_nil p s)
      rw [hrest, List.modifyHead_cons] at h
      rw [hrest] at ih
      rcases List.mem_cons.1 h with rfl | h
      · rw [List.any_cons, ih (List.mem_cons_self ..), Bool.or_false]
        simpa using hc
      · exact ih (List.mem_cons_of_mem _ h)

theorem isWord_of_mem_words {s t : List Char} (h : t ∈ words s) : IsWord t := by
  obtain ⟨hpart, hne⟩ := List.mem_filter.1 h
  refine ⟨?_, any_of_mem_splitOnP hpart⟩
  simpa using hne

theorem IsWord.append {s t : List Char} (hs : s.any isBlank = false) (ht : IsWord t) :
    IsWord (s ++ t) := by
  refine ⟨List.append_ne_nil_of_right_ne_nil s ht.ne_nil, ?_⟩
  rw [List.any_append, hs, ht.not_blank]
  rfl

theorem isWord_append_colon {name value : List Char} (hname : name.any isBlank = false)
    (hvalue : value.any isBlank = false) : IsWord (name ++ ':' :: value) := by
  apply IsWord.append hname
  refine ⟨List.cons_ne_nil ':' value, ?_⟩
  rw [List.any_cons, hvalue]
  rfl

theorem isUpper_eq_false_iff {c : Char} : c.isUpper = false ↔ ¬ (65 ≤ c.toNat ∧ c.toNat ≤ 90) :=
  decide_eq_false_iff_not

theorem toLower_of_not_upper {c : Char} (hc : c.isUpper = false) : c.toLower = c :=
  dif_neg (of_decide_eq_false hc)

theorem mem_lowerAscii {c : Char} {cs : List Char} (hc : c.isUpper = false) (h : c ∈ cs) :
    c ∈ lowerAscii cs :=
  List.mem_map.2 ⟨c, h, toLower_of_not_upper hc⟩

theorem isUpper_of_isBlank {c : Char} (h : isBlank c = true) : c.isUpper = false := by
  simp only [isBlank, Bool.or_eq_true, Bool.and_eq_true, decide_eq_true_eq, beq_iff_eq] at h
  rw [isUpper_eq_false_iff]
  omega

theorem not_blank_of_lowerAscii {cs : List Char} (h : (lowerAscii cs).any isBlank = false) :
    cs.any isBlank = false := by
  rw [List.any_eq_false] at h ⊢
  intro c hc hblank
  exact h c (mem_lowerAscii (isUpper_of_isBlank hblank) hc) hblank

theorem dropWhile_of_not_blank {cs : List Char} (h : cs.any isBlank = false) :
    cs.dropWhile isBlank = cs := by
  cases cs with
  | nil => rfl
  | cons c cs =>
    rw [List.any_cons, Bool.or_eq_false_iff] at h
    exact List.dropWhile_cons_of_neg (by simp [h.1])

theorem trim_of_not_blank {cs : List Char} (h : cs.any isBlank = false) : trim cs = cs := by
  have hreverse : cs.reverse.any isBlank = false := by rw [List.any_reverse, h]
  rw [trim, trimStart, dropWhile_of_not_blank h, trimEnd, dropWhile_of_not_blank hreverse,
    List.reverse_reverse]

end Text

namespace Query

open Text

/-- A name that a token may begin with and that is then read as it is written. -/
structure IsKeyName (name : List Char) : Prop where
  not_blank : name.any isBlank = false
  not_escape : '\\' ∉ name
  not_colon : ':' ∉ name
  not_minus : name.head? ≠ some '-'
  lower : lowerAscii name = name

/-- What stands before a negated token. -/
def sign (negated : Bool) : List Char := if negated then ['-'] else []

theorem isWord_sign (negated : Bool) {t : List Char} (h : IsWord t) :
    IsWord (sign negated ++ t) := by
  have hsign : (sign negated).any isBlank = false := by
    cases negated <;> decide
  exact h.append hsign

theorem head?_append_colon {name : List Char} (hminus : name.head? ≠ some '-')
    (value : List Char) : (name ++ ':' :: value).head? ≠ some '-' := by
  cases name with
  | nil =>
    change some ':' ≠ some '-'
    decide
  | cons c name => exact hminus

theorem isKeyName_userField (k : UserField) : IsKeyName (Key.name k).toList := by
  cases k <;> constructor <;> decide

theorem isKeyName_tagField (k : TagField) : IsKeyName (Key.name k).toList := by
  cases k <;> constructor <;> decide

theorem isKeyName_postField (k : PostField) : IsKeyName (Key.name k).toList := by
  cases k <;> constructor <;> decide

theorem isKeyName_sort : IsKeyName "sort".toList := by
  constructor <;> decide

section Token

variable {α O C : Type} [Key O] [Key C] (S : Schema α O C) (negated : Bool)

theorem takeMinus_sign {body : List Char} (hne : body ≠ []) (hminus : body.head? ≠ some '-') :
    takeMinus (sign negated ++ body) = (negated, body) := by
  obtain ⟨c, cs, rfl⟩ := List.exists_cons_of_ne_nil hne
  cases negated with
  | true => rfl
  | false =>
    have hc : c ≠ '-' := fun h => hminus (congrArg some h)
    change takeMinus (c :: cs) = (false, c :: cs)
    simp [takeMinus, hc]

theorem readToken_sign {body : List Char} (hne : body ≠ []) (hminus : body.head? ≠ some '-') :
    readToken S (sign negated ++ body) = readBody S negated body := by
  rw [readToken, takeMinus_sign negated hne hminus]

theorem readBody_of_cut {body key value name : List Char}
    (hcut : cutBare? [':'] body = some (key, value)) (hname : unescape? key = some name) :
    readBody S negated body =
      if String.ofList (lowerAscii name) = "sort" then
        (readSort value).map fun (k, d) => .order k (if negated then d.reversed else d)
      else
        (Key.read (String.ofList (lowerAscii name))).map fun k =>
          .requirement ⟨k, .ofText (String.ofList value), negated⟩ := by
  have hunescape : unescape key = .ok name := by
    rw [unescape, hname]
  simp only [readBody, hcut, hunescape, Outcome.ok_bind]
  split
  · cases readSort (O := O) value <;> rfl
  · cases Key.read (K := C) (String.ofList (lowerAscii name)) <;> rfl

theorem readBody_name {name : List Char} (hname : IsKeyName name) (value : List Char) :
    readBody S negated (name ++ ':' :: value) =
      if String.ofList name = "sort" then
        (readSort value).map fun (k, d) => .order k (if negated then d.reversed else d)
      else
        (Key.read (String.ofList name)).map fun k =>
          .requirement ⟨k, .ofText (String.ofList value), negated⟩ := by
  have hcut : cutBare? [':'] (name ++ ':' :: value) = some (name, value) :=
    cutBare?_of_plain hname.not_escape hname.not_colon (by decide)
  rw [readBody_of_cut S negated hcut (unescape?_of_plain hname.not_escape), hname.lower]

section Spelling

variable {k : C} {spelling : List Char} (hname : IsKeyName (Key.name k).toList)
  (hspelling : lowerAscii spelling = (Key.name k).toList)

include hname hspelling

omit [Key O] in
/-- In whatever letter case, a key stands out from what surrounds it. -/
theorem isPlain_spelling : spelling.any isBlank = false ∧ '\\' ∉ spelling ∧ ':' ∉ spelling ∧
    spelling.head? ≠ some '-' := by
  have hnot {c : Char} (hc : c.isUpper = false) (h : c ∉ (Key.name k).toList) : c ∉ spelling := by
    intro hmem
    exact h (hspelling ▸ mem_lowerAscii hc hmem)
  refine ⟨?_, hnot (by decide) hname.not_escape, hnot (by decide) hname.not_colon, ?_⟩
  · apply not_blank_of_lowerAscii
    rw [hspelling]
    exact hname.not_blank
  · intro hhead
    have hlower : (lowerAscii spelling).head? = some '-' := by
      rw [lowerAscii, List.head?_map, hhead]
      rfl
    rw [hspelling] at hlower
    exact hname.not_minus hlower

theorem readBody_spelling (hsort : Key.name k ≠ "sort") (value : List Char) :
    readBody S negated (spelling ++ ':' :: value) =
      .ok (.requirement ⟨k, .ofText (String.ofList value), negated⟩) := by
  obtain ⟨-, hescape, hcolon, -⟩ := isPlain_spelling hname hspelling
  have hcut : cutBare? [':'] (spelling ++ ':' :: value) = some (spelling, value) :=
    cutBare?_of_plain hescape hcolon (by decide)
  have hread : Key.read (K := C) (Key.name k) = .ok k := by
    rw [Key.read, Key.find?_name]
  rw [readBody_of_cut S negated hcut (unescape?_of_plain hescape), hspelling,
    String.ofList_toList, if_neg hsort, hread]
  rfl

end Spelling

theorem readBody_key {k : C} (hname : IsKeyName (Key.name k).toList)
    (hsort : Key.name k ≠ "sort") (value : List Char) :
    readBody S negated ((Key.name k).toList ++ ':' :: value) =
      .ok (.requirement ⟨k, .ofText (String.ofList value), negated⟩) :=
  readBody_spelling S negated hname hname.lower hsort value

theorem readBody_keyless {k : C} (hk : S.keyless = some k) {body : List Char}
    (hcut : cutBare? [':'] body = none) :
    readBody S negated body = .ok (.requirement ⟨k, .ofText (String.ofList body), negated⟩) := by
  rw [readBody, hcut, hk]

variable [DecidableEq O]

theorem read_word {token : List Char} (h : IsWord token) :
    read S (String.ofList token) = (readToken S token).map fun item => ofItems [item] := by
  rw [read, String.toList_ofList, h.words_eq, List.mapM_cons, List.mapM_nil]
  cases readToken S token <;> rfl

theorem read_sign {body : List Char} (h : IsWord body) (hminus : body.head? ≠ some '-') :
    read S (String.ofList (sign negated ++ body)) =
      (readBody S negated body).map fun item => ofItems [item] := by
  rw [read_word S (isWord_sign negated h), readToken_sign S negated h.ne_nil hminus]

end Token

end Query

end EntitySearch
