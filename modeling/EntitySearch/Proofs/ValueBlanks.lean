import EntitySearch.Proofs.Backslash
import EntitySearch.Proofs.Matcher
import EntitySearch.Proofs.Query
import EntitySearch.Proofs.Trimming

/-!
Blanks around a value. Names, numbers, ratios and dates are trimmed when they are read, after their
escapes are removed, so that blanks in front of a text and behind it change nothing
(`ValueKind.span?_surrounded`). The words for yes and no are not trimmed: with a blank at an end
they are refused (`readBoolean?_surrounded`).
-/

namespace EntitySearch

open Text

namespace Text

variable {p : Char → Bool} {front back us : List Char}

theorem cutAt?_append_left (h : ∀ c ∈ front, p c = false) (cs : List Char) :
    cutAt? p (front ++ cs) = (cutAt? p cs).map fun (a, b) => (front ++ a, b) := by
  induction front with
  | nil => simp
  | cons c front ih =>
    obtain ⟨hc, hfront⟩ := List.forall_mem_cons.1 h
    rw [List.cons_append, cutAt?, hc, ih hfront]
    cases cutAt? p cs <;> rfl

theorem cutAt?_append_right (h : ∀ c ∈ back, p c = false) (cs : List Char) :
    cutAt? p (cs ++ back) = (cutAt? p cs).map fun (a, b) => (a, b ++ back) := by
  induction cs with
  | nil =>
    have hback : cutAt? p (back ++ []) = none := cutAt?_append_left h []
    rw [List.nil_append, ← List.append_nil back, hback]
    rfl
  | cons c cs ih =>
    rw [List.cons_append, cutAt?, cutAt?, ih]
    cases p c <;> cases cutAt? p cs <;> rfl

section Blank

variable (hfront : ∀ c ∈ front, isBlank c = true) (hback : ∀ c ∈ back, isBlank c = true)

include hfront hback

theorem trim_surrounded (cs : List Char) : trim (front ++ cs ++ back) = trim cs := by
  rw [trim_append_blank hback, trim_blank_append hfront]

/-- A blank is no mark, so each of the two parts gets blanks at one end only. -/
theorem cutAt?_surrounded (hp : ∀ c, isBlank c = true → p c = false) (cs : List Char) :
    cutAt? p (front ++ cs ++ back) = (cutAt? p cs).map fun (a, b) => (front ++ a, b ++ back) := by
  rw [cutAt?_append_right fun c hc => hp c (hback c hc),
    cutAt?_append_left fun c hc => hp c (hfront c hc), Option.map_map]
  rfl

/-- A text with a meaning does not end in a backslash that would escape a blank. -/
theorem unescape?_surrounded {cs : List Char} (h : unescape? cs = some us) :
    unescape? (front ++ cs ++ back) = some (front ++ us ++ back) := by
  have hplain {w : List Char} (hw : ∀ c ∈ w, isBlank c = true) : '\\' ∉ w :=
    not_mem_of_blank (by decide) hw
  have hcs : unescape? (front ++ cs) = some (front ++ us) := by
    rw [unescape?_append (not_escapesNext_of_plain (hplain hfront)),
      unescape?_of_plain (hplain hfront), h]
    rfl
  have hend : ¬ EscapesNext (front ++ cs) := by
    apply not_escapesNext_of_unescape?
    simp [hcs]
  rw [unescape?_append hend, hcs, unescape?_of_plain (hplain hback)]
  rfl

end Blank

end Text

section Readers

variable {front back : List Char} (hfront : ∀ c ∈ front, isBlank c = true)
  (hback : ∀ c ∈ back, isBlank c = true)

include hfront hback

theorem readFloat?_surrounded (cs : List Char) :
    readFloat? (front ++ cs ++ back) = readFloat? cs := by
  have hmark (c : Char) (hc : isBlank c = true) : (c == '/' || c == ':') = false := by
    rw [Bool.or_eq_false_iff, beq_eq_false_iff_ne, beq_eq_false_iff_ne]
    constructor
    · rintro rfl
      exact absurd hc (by decide)
    · rintro rfl
      exact absurd hc (by decide)
  rw [readFloat?, readFloat?, cutAt?_surrounded hfront hback hmark]
  cases cutAt? (fun c => c == '/' || c == ':') cs with
  | none => simp only [Option.map_none, trim_surrounded hfront hback]
  | some parts => simp only [Option.map_some, trim_blank_append hfront, trim_append_blank hback]

/-- Every reader but that of yes and no trims what it reads. -/
theorem ValueKind.span?_surrounded {kind : ValueKind} (hkind : kind ≠ .boolean) (today : Date)
    (cs : List Char) : kind.span? today (front ++ cs ++ back) = kind.span? today cs := by
  have htrim : trim (front ++ cs ++ back) = trim cs := trim_surrounded hfront hback cs
  cases kind with
  | text => rfl
  | enum names => simp only [span?, readName?, htrim]
  | integer => simp only [span?, readInteger?, htrim]
  | float => simp only [span?, readFloat?_surrounded hfront hback]
  | boolean => exact absurd rfl hkind
  | moment => simp only [span?, readPeriod?, htrim]

end Readers

section Boolean

variable {cs : List Char} {b : Bool}

/-- The words for the two answers, in lower case. -/
theorem lowerAscii_of_readBoolean? (h : readBoolean? cs = some b) :
    String.ofList (lowerAscii cs) ∈ ["1", "y", "yes", "true", "0", "n", "no", "false"] := by
  rw [readBoolean?] at h
  split at h
  · next hyes =>
    exact List.mem_append_left ["0", "n", "no", "false"] (List.contains_iff_mem.1 hyes)
  · split at h
    · next hno =>
      exact List.mem_append_right ["1", "y", "yes", "true"] (List.contains_iff_mem.1 hno)
    · contradiction

theorem not_blank_of_readBoolean? (h : readBoolean? cs = some b) : cs.any isBlank = false := by
  have hwords : ∀ w ∈ ["1", "y", "yes", "true", "0", "n", "no", "false"],
      w.toList.any isBlank = false := by
    decide
  apply not_blank_of_lowerAscii
  simpa using hwords _ (lowerAscii_of_readBoolean? h)

theorem readBoolean?_surrounded {front back : List Char} (hfront : ∀ c ∈ front, isBlank c = true)
    (hback : ∀ c ∈ back, isBlank c = true) (hsome : front ≠ [] ∨ back ≠ []) (cs : List Char) :
    readBoolean? (front ++ cs ++ back) = none := by
  cases hread : readBoolean? (front ++ cs ++ back) with
  | none => rfl
  | some b =>
    have hblank := List.any_eq_false.1 (not_blank_of_readBoolean? hread)
    rcases hsome with hne | hne
    · obtain ⟨c, rest, rfl⟩ := List.exists_cons_of_ne_nil hne
      exact absurd (hfront c (by simp)) (hblank c (by simp))
    · obtain ⟨c, rest, rfl⟩ := List.exists_cons_of_ne_nil hne
      exact absurd (hback c (by simp)) (hblank c (by simp))

end Boolean

namespace Matcher

variable {today : Date} {key raw front back : String} {kind : ValueKind} {ms : List Matcher}
  (hfront : ∀ c ∈ front.toList, isBlank c = true) (hback : ∀ c ∈ back.toList, isBlank c = true)

include hfront hback

theorem readSpan_surrounded (hkind : kind ≠ .boolean) {span : Value × Value}
    (h : readSpan today key kind raw = .ok span) :
    readSpan today key kind (front ++ raw ++ back) = .ok span := by
  rw [readSpan_eq_ok_iff] at h ⊢
  obtain ⟨us, hus, hspan⟩ := Option.bind_eq_some_iff.1 h
  rw [String.toList_append, String.toList_append, unescape?_surrounded hfront hback hus,
    Option.bind_some, ValueKind.span?_surrounded hfront hback hkind, hspan]

theorem readSpan_boolean_surrounded (hsome : front ≠ "" ∨ back ≠ "") {span : Value × Value}
    (h : readSpan today key .boolean raw = .ok span) :
    readSpan today key .boolean (front ++ raw ++ back) =
      .error (.criterionValue key (front ++ raw ++ back)) := by
  obtain ⟨us, hus, -⟩ := Option.bind_eq_some_iff.1 (readSpan_eq_ok_iff.1 h)
  have hne : front.toList ≠ [] ∨ back.toList ≠ [] := by simpa using hsome
  have hread : readBoolean? (front.toList ++ us ++ back.toList) = none :=
    readBoolean?_surrounded hfront hback hne us
  have htext : unescape? (front ++ raw ++ back).toList =
      some (front.toList ++ us ++ back.toList) := by
    rw [String.toList_append, String.toList_append, unescape?_surrounded hfront hback hus]
  simp only [readSpan, htext, ValueKind.span?, hread, Option.map_none]

theorem ofCriterion_surrounded (htext : kind ≠ .text) (hkind : kind ≠ .boolean)
    (h : ofCriterion today key kind (.plain raw) = .ok ms) :
    ofCriterion today key kind (.plain (front ++ raw ++ back)) = .ok ms := by
  obtain ⟨m, hm, rfl⟩ := ofCriterion_plain_eq_ok_iff.1 h
  obtain ⟨span, hspan, rfl⟩ := (ofText_eq_ok_iff htext).1 hm
  rw [ofCriterion_plain, ofText_eq_map htext, readSpan_surrounded hfront hback hkind hspan]
  rfl

theorem ofCriterion_boolean_surrounded (hsome : front ≠ "" ∨ back ≠ "")
    (h : ofCriterion today key .boolean (.plain raw) = .ok ms) :
    ofCriterion today key .boolean (.plain (front ++ raw ++ back)) =
      .error (.criterionValue key (front ++ raw ++ back)) := by
  obtain ⟨m, hm, rfl⟩ := ofCriterion_plain_eq_ok_iff.1 h
  obtain ⟨span, hspan, -⟩ := (ofText_eq_ok_iff (by decide)).1 hm
  rw [ofCriterion_plain, ofText_eq_map (by decide),
    readSpan_boolean_surrounded hfront hback hsome hspan]
  rfl

/-- Under a kind that is no text, a text that has a meaning keeps it with blanks around it, unless
it is a word for yes or no. Such a word is refused with any blank at its ends. -/
theorem blanks_ignored_iff (htext : kind ≠ .text)
    (h : ofCriterion today key kind (.plain raw) = .ok ms) :
    ((∃ ms', ofCriterion today key kind (.plain (front ++ raw ++ back)) = .ok ms' ∧
        ∀ v, (∃ m ∈ ms', m.accepts v = true) ↔ ∃ m ∈ ms, m.accepts v = true) ↔
      kind ≠ .boolean ∨ (front = "" ∧ back = "")) ∧
    (kind = .boolean → front ≠ "" ∨ back ≠ "" →
      ofCriterion today key kind (.plain (front ++ raw ++ back)) =
        .error (.criterionValue key (front ++ raw ++ back))) := by
  by_cases hkind : kind = .boolean
  · subst hkind
    have hrefused := ofCriterion_boolean_surrounded hfront hback (h := h)
    refine ⟨⟨?_, ?_⟩, fun _ => hrefused⟩
    · intro hkept
      obtain ⟨ms', hms', -⟩ := hkept
      by_contra hsome
      rw [not_or, not_and_or] at hsome
      rw [hrefused hsome.2] at hms'
      contradiction
    · intro hnone
      obtain ⟨rfl, rfl⟩ := hnone.resolve_left fun hne => hne rfl
      exact ⟨ms, by simpa using h, fun v => Iff.rfl⟩
  · have hkept := ofCriterion_surrounded hfront hback htext hkind h
    constructor
    · exact iff_of_true ⟨ms, hkept, fun v => Iff.rfl⟩ (.inl hkind)
    · exact fun hboolean => absurd hboolean hkind

omit hfront hback

/-- A ratio with an escaped colon; in front of it a tab and a space, behind it a no-break space. -/
theorem blanks_ignored_iff_ratio :
    (∀ c ∈ "\t ".toList, isBlank c = true) ∧ (∀ c ∈ "\u00a0".toList, isBlank c = true) ∧
      ValueKind.float ≠ .text ∧ ∃ ms ms',
        ofCriterion ⟨2024, 6, 15⟩ "image_ar" .float (.plain "16\\:9") = .ok ms ∧
          ofCriterion ⟨2024, 6, 15⟩ "image_ar" .float (.plain ("\t " ++ "16\\:9" ++ "\u00a0")) =
            .ok ms' ∧
          ∀ v, (∃ m ∈ ms', m.accepts v = true) ↔ ∃ m ∈ ms, m.accepts v = true := by
  have hfront : ∀ c ∈ "\t ".toList, isBlank c = true := List.all_eq_true.1 rfl
  have hback : ∀ c ∈ "\u00a0".toList, isBlank c = true := List.all_eq_true.1 rfl
  have htext : ValueKind.float ≠ .text := by decide
  have hratio : ∃ ms, ofCriterion ⟨2024, 6, 15⟩ "image_ar" .float (.plain "16\\:9") = .ok ms :=
    ⟨_, rfl⟩
  obtain ⟨ms, hratio⟩ := hratio
  obtain ⟨ms', hms', hsame⟩ :=
    (blanks_ignored_iff hfront hback htext hratio).1.2 (.inl (by decide))
  exact ⟨hfront, hback, htext, ms, ms', hratio, hms', hsame⟩

/-- A space in front of a word for yes is enough to have it refused. -/
theorem not_ofCriterion_blank_yes :
    ofCriterion ⟨2024, 6, 15⟩ "has_notes" .boolean (.plain "yes") =
        .ok [.interval (some (.boolean true)) (some (.boolean true))] ∧
      isBlank ' ' = true ∧
      ofCriterion ⟨2024, 6, 15⟩ "has_notes" .boolean (.plain " yes") =
        .error (.criterionValue "has_notes" " yes") :=
  ⟨rfl, rfl, rfl⟩

end Matcher

end EntitySearch
