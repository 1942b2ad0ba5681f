import EntitySearch.Proofs.Matcher

/-!
One text in criteria of all shapes. By itself, as the only text of a choice and as both ends of a
range it asks for the same values, or is refused for the same fault, under the kinds of fields that
have ranges; under all other kinds the range has a fault of its own (`Matcher.agree_ofOneText_iff`).
-/

namespace EntitySearch

open Text

/-- A text by itself, as a choice with no other, and as the range from it to itself. -/
def Criterion.ofOneText (raw : String) : List Criterion :=
  [.plain raw, .anyOf [raw], .range (some raw) (some raw)]

theorem Criterion.forall_mem_ofOneText {raw : String} {p : Criterion → Prop} :
    (∀ c ∈ ofOneText raw, p c) ↔
      p (.plain raw) ∧ p (.anyOf [raw]) ∧ p (.range (some raw) (some raw)) := by
  simp [ofOneText]

theorem ValueKind.isOrdered_iff {kind : ValueKind} :
    kind.isOrdered = true ↔ kind = .integer ∨ kind = .float ∨ kind = .moment := by
  cases kind <;> simp [isOrdered]

namespace Matcher

/-- The criteria are all refused for the same fault, or they all have a meaning and find the same
values. -/
def Agree (today : Date) (key : String) (kind : ValueKind) (cs : List Criterion) : Prop :=
  (∃ e, ∀ c ∈ cs, ofCriterion today key kind c = .error e) ∨
    ∃ finds : Value → Prop, ∀ c ∈ cs, ∃ ms, ofCriterion today key kind c = .ok ms ∧
      ∀ v, (∃ m ∈ ms, m.accepts v = true) ↔ finds v

variable {today : Date} {key raw : String} {kind : ValueKind}

theorem ofCriterion_singleton (today : Date) (key : String) (kind : ValueKind) (raw : String) :
    ofCriterion today key kind (.anyOf [raw]) = ofCriterion today key kind (.plain raw) := by
  rw [ofCriterion_plain, ofCriterion, List.mapM_cons, List.mapM_nil]
  cases ofText today key kind raw <;> rfl

theorem ofCriterion_range_self (hkind : kind.isOrdered = true) :
    ofCriterion today key kind (.range (some raw) (some raw)) =
      ofCriterion today key kind (.plain raw) := by
  have htext : kind ≠ .text := by
    rintro rfl
    contradiction
  rw [ofCriterion_plain, ofText_eq_map htext, ofCriterion_range (by simp), readBound_some hkind,
    readBound_some hkind]
  cases readSpan today key kind raw <;> rfl

/-- A kind without ranges refuses both ends, whatever the text. -/
theorem ofCriterion_range_of_unordered (hkind : kind.isOrdered = false) :
    ofCriterion today key kind (.range (some raw) (some raw)) = .error (.rangeNotAllowed key) := by
  have hbound (pick : Value × Value → Value) :
      readBound today key kind pick (some raw) = .error (.rangeNotAllowed key) := by
    rw [readBound, if_neg (by simp [hkind])]
  rw [ofCriterion_range (by simp), hbound]
  rfl

theorem ofCriterion_plain_ne_rangeNotAllowed :
    ofCriterion today key kind (.plain raw) ≠ .error (.rangeNotAllowed key) := by
  intro h
  rw [ofCriterion_plain, Outcome.map_eq_error_iff] at h
  by_cases hkind : kind = .text
  · subst hkind
    rw [ofText] at h
    split at h <;> simp at h
  · rw [ofText_eq_map hkind, Outcome.map_eq_error_iff, readSpan] at h
    split at h
    · simp at h
    · split at h <;> simp at h

/-- With ranges, all shapes are compiled to the same matchers, so that it is enough to look at the
text by itself. -/
theorem agree_of_isOrdered (hkind : kind.isOrdered = true) :
    Agree today key kind (Criterion.ofOneText raw) := by
  have hsame : ∀ c ∈ Criterion.ofOneText raw,
      ofCriterion today key kind c = ofCriterion today key kind (.plain raw) :=
    Criterion.forall_mem_ofOneText.2
      ⟨rfl, ofCriterion_singleton today key kind raw, ofCriterion_range_self hkind⟩
  cases hplain : ofCriterion today key kind (.plain raw) with
  | error e =>
    left
    refine ⟨e, fun c hc => ?_⟩
    rw [hsame c hc, hplain]
  | ok ms =>
    right
    refine ⟨fun v => ∃ m ∈ ms, m.accepts v = true, fun c hc => ⟨ms, ?_, fun v => Iff.rfl⟩⟩
    rw [hsame c hc, hplain]

/-- Without ranges, the range has a fault that neither of the other shapes can have. -/
theorem not_agree_of_unordered (hkind : kind.isOrdered = false) :
    ¬ Agree today key kind (Criterion.ofOneText raw) := by
  have hrange : ofCriterion today key kind (.range (some raw) (some raw)) =
      .error (.rangeNotAllowed key) := ofCriterion_range_of_unordered hkind
  intro h
  rcases h with ⟨e, he⟩ | ⟨finds, hfinds⟩
  · obtain ⟨hplain, -, hrange'⟩ := Criterion.forall_mem_ofOneText.1 he
    obtain rfl : .rangeNotAllowed key = e := Except.error.inj (hrange.symm.trans hrange')
    exact ofCriterion_plain_ne_rangeNotAllowed hplain
  · obtain ⟨-, -, ms, hms, -⟩ := Criterion.forall_mem_ofOneText.1 hfinds
    rw [hrange] at hms
    contradiction

/-- The shapes agree on every text under the kinds of numbers and moments, and on no text at all
under the kinds that have no ranges. -/
theorem agree_ofOneText_iff (today : Date) (key : String) (kind : ValueKind) (raw : String) :
    Agree today key kind (Criterion.ofOneText raw) ↔
      kind = .integer ∨ kind = .float ∨ kind = .moment := by
  rw [← ValueKind.isOrdered_iff]
  cases hkind : kind.isOrdered with
  | true => exact iff_of_true (agree_of_isOrdered hkind) rfl
  | false => exact iff_of_false (not_agree_of_unordered hkind) Bool.false_ne_true

end Matcher

end EntitySearch
