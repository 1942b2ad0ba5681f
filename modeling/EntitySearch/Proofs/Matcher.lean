import EntitySearch.Predicate
import EntitySearch.Proofs.Outcome

/-!
What criteria are compiled to, for every kind of field alike. A text field gets a pattern for each
text; all other kinds get an interval, from the first to the last of the values that a text denotes
or from the one end of a range to the other.
-/

namespace EntitySearch

open Text

namespace Matcher

variable {today : Date} {key raw : String} {kind : ValueKind}

theorem accepts_null (m : Matcher) : m.accepts .null = false := by
  cases m <;> rfl

/-- Where values compare as numbers do, an interval holds those from the one number to the other. -/
theorem accepts_interval_iff {β : Type} {f : β → Value} {place : β → Int}
    (hnull : ∀ x, (f x).isNull = false) (hkind : ∀ x y, (f x).sameKind (f y) = true)
    (hcompare : ∀ x y, (f x).compare (f y) = compare (place x) (place y)) {first last : Option β}
    {x : β} : (interval (first.map f) (last.map f)).accepts (f x) = true ↔
      (∀ a ∈ first, place a ≤ place x) ∧ ∀ b ∈ last, place x ≤ place b := by
  have hge (a : β) : ((f x).compare (f a)).isGE = true ↔ place a ≤ place x := by
    rw [hcompare]
    exact Std.isGE_compare
  have hle (b : β) : ((f x).compare (f b)).isLE = true ↔ place x ≤ place b := by
    rw [hcompare]
    exact Std.isLE_compare
  cases first <;> cases last <;> simp [accepts, hnull, hkind, hge, hle]

theorem readSpan_eq_ok_iff {span : Value × Value} :
    readSpan today key kind raw = .ok span ↔
      (unescape? raw.toList).bind (kind.span? today) = some span := by
  rw [readSpan]
  cases unescape? raw.toList with
  | none => simp
  | some cs =>
    simp only [Option.bind_some]
    cases kind.span? today cs <;> simp

theorem ofText_text_eq_ok_iff {m : Matcher} :
    ofText today key .text raw = .ok m ↔
      ∃ p, Pattern.ofText? raw.toList = some p ∧ .pattern p = m := by
  rw [ofText]
  cases Pattern.ofText? raw.toList <;> simp

theorem ofText_eq_map (hkind : kind ≠ .text) : ofText today key kind raw =
    (readSpan today key kind raw).map fun span => .interval (some span.1) (some span.2) := by
  cases kind with
  | text => exact absurd rfl hkind
  | _ =>
    simp only [ofText]
    cases readSpan today key _ raw <;> rfl

theorem ofText_eq_ok_iff (hkind : kind ≠ .text) {m : Matcher} :
    ofText today key kind raw = .ok m ↔ ∃ span, readSpan today key kind raw = .ok span ∧
      .interval (some span.1) (some span.2) = m := by
  rw [ofText_eq_map hkind, Outcome.map_eq_ok_iff]

theorem readBound_some (hkind : kind.isOrdered = true) (pick : Value × Value → Value) :
    readBound today key kind pick (some raw) =
      (readSpan today key kind raw).map fun span => some (pick span) := by
  rw [readBound, if_pos hkind]

theorem readBound_some_eq_ok_iff {pick : Value × Value → Value} {b : Option Value} :
    readBound today key kind pick (some raw) = .ok b ↔ kind.isOrdered = true ∧
      ∃ span, readSpan today key kind raw = .ok span ∧ some (pick span) = b := by
  rw [readBound]
  split
  · next h => rw [Outcome.map_eq_ok_iff, and_iff_right h]
  · next h => simp [h]

theorem ofCriterion_plain (today : Date) (key : String) (kind : ValueKind) (raw : String) :
    ofCriterion today key kind (.plain raw) = (ofText today key kind raw).map fun m => [m] := by
  rw [ofCriterion]
  cases ofText today key kind raw <;> rfl

theorem ofCriterion_plain_eq_ok_iff {ms : List Matcher} :
    ofCriterion today key kind (.plain raw) = .ok ms ↔
      ∃ m, ofText today key kind raw = .ok m ∧ [m] = ms := by
  rw [ofCriterion_plain, Outcome.map_eq_ok_iff]

theorem ofCriterion_range {min max : Option String} (h : ¬ (min = none ∧ max = none)) :
    ofCriterion today key kind (.range min max) =
      (readBound today key kind Prod.fst min).bind fun first =>
        (readBound today key kind Prod.snd max).map fun last => [interval first last] := by
  rw [ofCriterion]
  · cases readBound today key kind Prod.fst min with
    | error e => rfl
    | ok first => cases readBound today key kind Prod.snd max <;> rfl
  · intro hmin hmax
    exact h ⟨hmin, hmax⟩

theorem ofCriterion_range_eq_ok {min max : Option String} {ms : List Matcher}
    (h : ofCriterion today key kind (.range min max) = .ok ms) :
    (min ≠ none ∨ max ≠ none) ∧
      ∃ first last, readBound today key kind Prod.fst min = .ok first ∧
        readBound today key kind Prod.snd max = .ok last ∧ ms = [interval first last] := by
  by_cases hopen : min = none ∧ max = none
  · obtain ⟨rfl, rfl⟩ := hopen
    contradiction
  · rw [ofCriterion_range hopen] at h
    obtain ⟨first, hfirst, h⟩ := Outcome.bind_eq_ok_iff.1 h
    obtain ⟨last, hlast, h⟩ := Outcome.map_eq_ok_iff.1 h
    exact ⟨not_and_or.1 hopen, first, last, hfirst, hlast, h.symm⟩

end Matcher

namespace Test

variable {α O C : Type} [Key C] {S : Schema α O C} {today : Date} {r : Requirement C}

theorem ofRequirement_eq_map (r : Requirement C) :
    ofRequirement S today r =
      (Matcher.ofCriterion today (Key.name r.key) (S.kind r.key) r.criterion).map
        fun ms => ⟨r.key, r.negated, ms⟩ := by
  rw [ofRequirement]
  cases Matcher.ofCriterion today (Key.name r.key) (S.kind r.key) r.criterion <;> rfl

theorem ofRequirement_eq_ok_iff {t : Test C} :
    ofRequirement S today r = .ok t ↔
      ∃ ms, Matcher.ofCriterion today (Key.name r.key) (S.kind r.key) r.criterion = .ok ms ∧
        ⟨r.key, r.negated, ms⟩ = t := by
  rw [ofRequirement_eq_map, Outcome.map_eq_ok_iff]

end Test

end EntitySearch
