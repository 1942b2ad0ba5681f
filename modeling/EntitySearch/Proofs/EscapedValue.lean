import EntitySearch.Proofs.Matcher
import EntitySearch.Proofs.PatternText

/-!
Escapes in the texts of criteria. What a text asks for does not hang on which of its characters are
escaped, but for the stars of a pattern: with other escapes a criterion of any shape is compiled to
the same matchers, or is refused for the same cause (`Matcher.alike_of_respelled`). An escape without
a meaning is the fault of the criterion wherever the text that has it is read.
-/

namespace EntitySearch

open Text

namespace InputError

/-- The fault without the text that was refused: what is wrong, and under which key. -/
def withoutText : InputError → InputError
  | .escape _ => .escape ""
  | .criterionValue key _ => .criterionValue key ""
  | e => e

/-- The same value, or faults that differ in the refused text at most. -/
inductive Alike {α : Type} : Except InputError α → Except InputError α → Prop
  | ok (a : α) : Alike (.ok a) (.ok a)
  | error {e e' : InputError} (h : e.withoutText = e'.withoutText) : Alike (.error e) (.error e')

namespace Alike

variable {α β : Type} {x y : Except InputError α}

theorem refl (x : Except InputError α) : Alike x x := by
  cases x with
  | ok a => exact .ok a
  | error e => exact .error rfl

theorem bind {f g : α → Except InputError β} (hx : Alike x y) (hf : ∀ a, Alike (f a) (g a)) :
    Alike (x >>= f) (y >>= g) := by
  cases hx with
  | ok a => exact hf a
  | error h => exact .error h

theorem map (hx : Alike x y) (f : α → β) : Alike (x.map f) (y.map f) := by
  cases hx with
  | ok a => exact .ok (f a)
  | error h => exact .error h

/-- The first fault of the one list is at the place of the first fault of the other. -/
theorem mapM {γ : Type} {f : γ → Except InputError α} {xs ys : List γ}
    (h : List.Forall₂ (fun x y => Alike (f x) (f y)) xs ys) : Alike (xs.mapM f) (ys.mapM f) := by
  induction h with
  | nil => exact .ok []
  | cons hx _ ih =>
    rw [List.mapM_cons, List.mapM_cons]
    apply hx.bind
    intro a
    apply ih.bind
    intro as
    exact .ok (a :: as)

end Alike

end InputError

namespace Text

/-- At each place of a text without its escapes: whether an escaped star stands there. -/
def escapedStars (cs : List Char) : List Bool := (glyphs cs).map (· == .escaped '*')

end Text

namespace Pattern

/-- What a character of a pattern asks for: a star that is not escaped is a run. -/
def pieceOf (c : Char) (escapedStar : Bool) : PatternPiece :=
  if c = '*' ∧ escapedStar = false then .run else .literal c

theorem piece?_eq_some {g : Glyph} {c : Char} (h : g.literal? = some c) :
    piece? g = some (pieceOf c (g == .escaped '*')) := by
  rcases Glyph.literal?_eq_some_iff.1 h with rfl | ⟨rfl, hc⟩
  · by_cases hstar : c = '*'
    · rw [hstar]
      rfl
    · rw [piece?_bare hstar, pieceOf, if_neg fun hrun => hstar hrun.1]
  · rw [piece?_escaped_eq_some_iff.2 ⟨rfl, isEscapable_iff.1 hc⟩]
    by_cases hstar : c = '*'
    · rw [hstar]
      rfl
    · rw [pieceOf, if_neg fun hrun => hstar hrun.1]

/-- A pattern hangs on the text without its escapes, and on the places of the escaped stars. -/
theorem ofText?_of_unescape? {cs us : List Char} (h : unescape? cs = some us) :
    ofText? cs = some (List.zipWith pieceOf us (escapedStars cs)) := by
  rw [unescape?, Outcome.mapM_eq_some_iff] at h
  rw [ofText?, Outcome.mapM_eq_some_iff, escapedStars]
  generalize glyphs cs = gs at h
  -- Each glyph gives one character to the text without escapes and one piece to the pattern.
  induction gs generalizing us with
  | nil =>
    obtain rfl : us = [] := List.map_eq_nil_iff.1 h.symm
    rfl
  | cons g gs ih =>
    obtain ⟨c, us, rfl, hc, hus⟩ := List.map_eq_cons_iff.1 h.symm
    rw [List.map_cons, List.map_cons, List.zipWith_cons_cons, List.map_cons, ih hus.symm,
      piece?_eq_some hc.symm]

end Pattern

namespace Criterion

/-- Another writing of a text: without their escapes the two are the same text. For a pattern the
same of its stars are escaped. -/
inductive Respells (kind : ValueKind) (raw : String) : String → Prop
  | same : Respells kind raw raw
  | escapes {raw' : String} {us : List Char} (h : unescape? raw.toList = some us)
    (h' : unescape? raw'.toList = some us)
    (hstars : kind = .text → escapedStars raw.toList = escapedStars raw'.toList) :
    Respells kind raw raw'

/-- A criterion of the same shape, any of whose texts may be written in another way. -/
inductive Respelled (kind : ValueKind) : Criterion → Criterion → Prop
  | plain {raw raw' : String} (h : Respells kind raw raw') :
    Respelled kind (.plain raw) (.plain raw')
  | anyOf {raws raws' : List String} (h : List.Forall₂ (Respells kind) raws raws') :
    Respelled kind (.anyOf raws) (.anyOf raws')
  | range {min max min' max' : Option String} (hmin : Option.Rel (Respells kind) min min')
    (hmax : Option.Rel (Respells kind) max max') : Respelled kind (.range min max) (.range min' max')

end Criterion

namespace Matcher

open Criterion InputError

variable {today : Date} {key raw raw' : String} {kind : ValueKind}

section Respelled

theorem readSpan_of_unescape? {us : List Char} (h : unescape? raw.toList = some us) :
    readSpan today key kind raw =
      (kind.span? today us).elim (.error (.criterionValue key raw)) .ok := by
  simp only [readSpan, h]
  cases kind.span? today us <;> rfl

theorem readSpan_alike (h : Respells kind raw raw') :
    Alike (readSpan today key kind raw) (readSpan today key kind raw') := by
  cases h with
  | same => exact .refl _
  | @escapes _ us h h' _ =>
    rw [readSpan_of_unescape? h, readSpan_of_unescape? h']
    cases kind.span? today us with
    | none => exact .error rfl
    | some span => exact .ok span

theorem ofText_alike (h : Respells kind raw raw') :
    Alike (ofText today key kind raw) (ofText today key kind raw') := by
  by_cases hkind : kind = .text
  · subst hkind
    cases h with
    | same => exact .refl _
    | escapes h h' hstars =>
      rw [ofText, ofText, Pattern.ofText?_of_unescape? h, Pattern.ofText?_of_unescape? h',
        hstars rfl]
      exact .ok _
  · rw [ofText_eq_map hkind, ofText_eq_map hkind]
    exact (readSpan_alike h).map _

theorem readBound_alike (pick : Value × Value → Value) {bound bound' : Option String}
    (h : Option.Rel (Respells kind) bound bound') :
    Alike (readBound today key kind pick bound) (readBound today key kind pick bound') := by
  cases h with
  | none => exact .ok none
  | some h =>
    rw [readBound, readBound]
    split
    · exact (readSpan_alike h).map _
    · exact .error rfl

/-- No reader of a value looks at a text before its escapes are removed, and a fault names the text
as it was written. -/
theorem alike_of_respelled {c c' : Criterion} (h : Respelled kind c c') :
    Alike (ofCriterion today key kind c) (ofCriterion today key kind c') := by
  cases h with
  | plain h =>
    rw [ofCriterion_plain, ofCriterion_plain]
    exact (ofText_alike h).map _
  | anyOf h =>
    apply Alike.mapM
    exact h.imp fun raw raw' hraw => ofText_alike hraw
  | @range min max min' max' hmin hmax =>
    -- A range without ends is refused before any text is read.
    by_cases hopen : min = none ∧ max = none
    · obtain ⟨rfl, rfl⟩ := hopen
      cases hmin
      cases hmax
      exact .refl _
    · have hopen' : ¬ (min' = none ∧ max' = none) := by
        rintro ⟨rfl, rfl⟩
        cases hmin
        cases hmax
        exact hopen ⟨rfl, rfl⟩
      rw [ofCriterion_range hopen, ofCriterion_range hopen']
      apply (readBound_alike Prod.fst hmin).bind
      intro first
      exact (readBound_alike Prod.snd hmax).map _

end Respelled

section BadEscape

variable (hbad : HasBadEscape raw.toList)

include hbad

theorem readSpan_of_hasBadEscape : readSpan today key kind raw = .error (.escape raw) := by
  rw [readSpan, unescape?_eq_none_iff.2 hbad]

theorem ofText_of_hasBadEscape : ofText today key kind raw = .error (.escape raw) := by
  by_cases hkind : kind = .text
  · rw [hkind, ofText, Pattern.ofText?_eq_none_iff.2 hbad]
  · rw [ofText_eq_map hkind, readSpan_of_hasBadEscape hbad]
    rfl

theorem readBound_of_hasBadEscape (hkind : kind.isOrdered = true) (pick : Value × Value → Value) :
    readBound today key kind pick (some raw) = .error (.escape raw) := by
  rw [readBound_some hkind, readSpan_of_hasBadEscape hbad]
  rfl

theorem ofCriterion_plain_of_hasBadEscape :
    ofCriterion today key kind (.plain raw) = .error (.escape raw) := by
  rw [ofCriterion_plain, ofText_of_hasBadEscape hbad]
  rfl

/-- The texts before this one have a meaning, so that it is read. -/
theorem ofCriterion_anyOf_of_hasBadEscape {before : List String} (after : List String)
    (hbefore : ∀ r ∈ before, ∃ ms, ofCriterion today key kind (.plain r) = .ok ms) :
    ofCriterion today key kind (.anyOf (before ++ raw :: after)) = .error (.escape raw) := by
  rw [ofCriterion, Outcome.mapM_eq_error_iff]
  refine ⟨before, raw, after, rfl, fun r hr => ?_, ofText_of_hasBadEscape hbad⟩
  have hread := hbefore r hr
  rwa [ofCriterion_plain, Outcome.exists_map_eq_ok_iff] at hread

theorem ofCriterion_range_of_hasBadEscape_left (hkind : kind.isOrdered = true)
    (max : Option String) :
    ofCriterion today key kind (.range (some raw) max) = .error (.escape raw) := by
  rw [ofCriterion_range (by simp), readBound_of_hasBadEscape hbad hkind]
  rfl

/-- The lower end is open or has a meaning, so that the upper one is read. -/
theorem ofCriterion_range_of_hasBadEscape_right (hkind : kind.isOrdered = true)
    {min : Option String} (hmin : ∀ r ∈ min, ∃ ms, ofCriterion today key kind (.plain r) = .ok ms) :
    ofCriterion today key kind (.range min (some raw)) = .error (.escape raw) := by
  have hfirst : ∃ first, readBound today key kind Prod.fst min = .ok first := by
    cases min with
    | none => exact ⟨none, rfl⟩
    | some r =>
      have htext : kind ≠ .text := by
        rintro rfl
        contradiction
      have hread := hmin r rfl
      rw [ofCriterion_plain, Outcome.exists_map_eq_ok_iff, ofText_eq_map htext,
        Outcome.exists_map_eq_ok_iff] at hread
      rwa [readBound_some hkind, Outcome.exists_map_eq_ok_iff]
  obtain ⟨first, hfirst⟩ := hfirst
  rw [ofCriterion_range (by simp), hfirst, readBound_of_hasBadEscape hbad hkind]
  rfl

end BadEscape

/-- Under every kind of field, criteria of one shape whose texts differ in their escapes alone are
compiled to the same matchers or have faults of the same cause. A text with an escape that has no
meaning is itself the fault of the criterion, if it is read: by itself, in a choice whose texts before
it have a meaning, and as the end of a range under the kinds that have ranges. -/
theorem escapes_transparent (today : Date) (key : String) (kind : ValueKind) :
    (∀ c c', Respelled kind c c' →
      Alike (ofCriterion today key kind c) (ofCriterion today key kind c')) ∧
    ∀ raw, HasBadEscape raw.toList →
      ofCriterion today key kind (.plain raw) = .error (.escape raw) ∧
      (∀ before after, (∀ r ∈ before, ∃ ms, ofCriterion today key kind (.plain r) = .ok ms) →
        ofCriterion today key kind (.anyOf (before ++ raw :: after)) = .error (.escape raw)) ∧
      (kind.isOrdered = true →
        (∀ max, ofCriterion today key kind (.range (some raw) max) = .error (.escape raw)) ∧
        ∀ min, (∀ r ∈ min, ∃ ms, ofCriterion today key kind (.plain r) = .ok ms) →
          ofCriterion today key kind (.range min (some raw)) = .error (.escape raw)) := by
  refine ⟨fun c c' h => alike_of_respelled h, fun raw hbad => ⟨?_, ?_, fun hkind => ⟨?_, ?_⟩⟩⟩
  · exact ofCriterion_plain_of_hasBadEscape hbad
  · intro before after hbefore
    exact ofCriterion_anyOf_of_hasBadEscape hbad after hbefore
  · exact ofCriterion_range_of_hasBadEscape_left hbad hkind
  · intro min hmin
    exact ofCriterion_range_of_hasBadEscape_right hbad hkind hmin

/-- The point of a pattern may be escaped or not, its stars may not be exchanged. The lower end of the
range has escapes with a meaning. -/
theorem escapes_transparent_starred :
    let today : Date := ⟨2024, 6, 15⟩
    let texts := ["cat", "c\\.\\**"]
    let texts' := ["cat", "c.\\**"]
    Respelled .text (.anyOf texts) (.anyOf texts') ∧
      Alike (ofCriterion today "tag" .text (.anyOf texts))
        (ofCriterion today "tag" .text (.anyOf texts')) ∧
      HasBadEscape "1\\q".toList ∧
      (∃ ms, ofCriterion today "score" .integer (.plain "\\-1") = .ok ms) ∧
      ofCriterion today "score" .integer (.range (some "\\-1") (some "1\\q")) =
        .error (.escape "1\\q") := by
  intro today texts texts'
  have hplain : unescape? "c\\.\\**".toList = some "c.**".toList := by decide
  have hstar : Respells .text "c\\.\\**" "c.\\**" :=
    .escapes hplain (by decide) fun _ => by decide
  have hrespelled : Respelled .text (.anyOf texts) (.anyOf texts') :=
    .anyOf (.cons .same (.cons hstar .nil))
  have hbad : HasBadEscape "1\\q".toList := by decide
  have hmin : ∃ ms, ofCriterion today "score" .integer (.plain "\\-1") = .ok ms := ⟨_, rfl⟩
  obtain ⟨halike, -⟩ := escapes_transparent today "tag" .text
  obtain ⟨-, hrefused⟩ := escapes_transparent today "score" .integer
  obtain ⟨-, -, hrange⟩ := hrefused "1\\q" hbad
  obtain ⟨-, hright⟩ := hrange rfl
  refine ⟨hrespelled, halike _ _ hrespelled, hbad, hmin, hright (some "\\-1") ?_⟩
  intro r hr
  obtain rfl := Option.mem_some_iff.1 hr
  exact hmin

end Matcher

end EntitySearch
