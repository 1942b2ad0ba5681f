import EntitySearch.Post
import EntitySearch.Proofs.Comparison
import EntitySearch.Proofs.Listing
import EntitySearch.Proofs.Matcher

/-!
Criteria find values of their own kind alone. Compiled for a kind of field, a criterion of any shape
gives matchers of that kind (`Matcher.keepsTo_of_ofCriterion`): patterns for text, and else intervals
with at least one end, all ends of the kind. Such matchers accept nothing else
(`Matcher.holds_of_accepts`), as an interval without ends would.
-/

namespace EntitySearch

/-- The values that a field of a kind has, null apart. A name of a closed list is a text. -/
inductive ValueKind.Holds : ValueKind → Value → Prop
  | text (s : String) : Holds .text (.text s)
  | enum (names : List String) (s : String) : Holds (.enum names) (.text s)
  | integer (i : Int) : Holds .integer (.integer i)
  | float (x : Binary64) : Holds .float (.float x)
  | boolean (b : Bool) : Holds .boolean (.boolean b)
  | moment (t : Moment) : Holds .moment (.moment t)

namespace ValueKind

variable {kind : ValueKind}

theorem holds_of_sameKind {v b : Value} (hb : kind.Holds b) (h : v.sameKind b = true) :
    kind.Holds v := by
  have hrank : v.rank = b.rank := by simpa [Value.sameKind] using h
  cases Value.ofOneKind_of_rank_eq hrank <;> cases hb <;> constructor

theorem holds_of_span? {today : Date} {cs : List Char} {span : Value × Value}
    (h : kind.span? today cs = some span) : kind.Holds span.1 ∧ kind.Holds span.2 := by
  cases kind with
  | text => contradiction
  | _ =>
    obtain ⟨x, -, rfl⟩ := Option.map_eq_some_iff.1 h
    constructor <;> constructor

end ValueKind

namespace Matcher

/-- Fit for the values of a kind: a pattern for text, an interval between values of the kind for
all others. -/
inductive KeepsTo : ValueKind → Matcher → Prop
  | pattern (p : Pattern) : KeepsTo .text (.pattern p)
  | interval {kind : ValueKind} {first last : Option Value} (bounded : first ≠ none ∨ last ≠ none)
      (first_holds : ∀ v ∈ first, kind.Holds v) (last_holds : ∀ v ∈ last, kind.Holds v) :
      KeepsTo kind (.interval first last)

variable {today : Date} {key raw : String} {kind : ValueKind}

theorem keepsTo_interval_iff {first last : Option Value} :
    KeepsTo kind (.interval first last) ↔ (first ≠ none ∨ last ≠ none) ∧
      (∀ v ∈ first, kind.Holds v) ∧ ∀ v ∈ last, kind.Holds v := by
  constructor
  · intro h
    cases h with
    | interval bounded hfirst hlast => exact ⟨bounded, hfirst, hlast⟩
  · intro h
    exact .interval h.1 h.2.1 h.2.2

theorem holds_of_accepts {m : Matcher} (hm : m.KeepsTo kind) {v : Value}
    (h : m.accepts v = true) : kind.Holds v := by
  cases hm with
  | pattern p =>
    cases v with
    | text s => exact .text s
    | _ => contradiction
  | @interval _ first last bounded hfirst hlast =>
    simp only [accepts, Bool.and_eq_true] at h
    obtain ⟨⟨-, habove⟩, hbelow⟩ := h
    -- One end is enough: a value is compared only with a value of its kind.
    have hend {o : Option Value} {within : Value → Bool} (ho : o ≠ none)
        (hall : ∀ b ∈ o, kind.Holds b) (h : o.all (fun b => v.sameKind b && within b) = true) :
        kind.Holds v := by
      obtain ⟨b, rfl⟩ := Option.ne_none_iff_exists'.1 ho
      rw [Option.all_some, Bool.and_eq_true] at h
      exact ValueKind.holds_of_sameKind (hall b rfl) h.1
    rcases bounded with hsome | hsome
    · exact hend hsome hfirst habove
    · exact hend hsome hlast hbelow

theorem holds_of_readSpan {span : Value × Value} (h : readSpan today key kind raw = .ok span) :
    kind.Holds span.1 ∧ kind.Holds span.2 := by
  obtain ⟨cs, -, hspan⟩ := Option.bind_eq_some_iff.1 (readSpan_eq_ok_iff.1 h)
  exact ValueKind.holds_of_span? hspan

theorem keepsTo_of_ofText {m : Matcher} (h : ofText today key kind raw = .ok m) :
    KeepsTo kind m := by
  by_cases hkind : kind = .text
  · subst hkind
    obtain ⟨p, -, rfl⟩ := ofText_text_eq_ok_iff.1 h
    exact .pattern p
  · obtain ⟨span, hspan, rfl⟩ := (ofText_eq_ok_iff hkind).1 h
    obtain ⟨hfirst, hlast⟩ := holds_of_readSpan hspan
    exact .interval (.inl (by simp)) (by simpa using hfirst) (by simpa using hlast)

theorem holds_of_readBound {pick : Value × Value → Value}
    (hpick : ∀ span : Value × Value, pick span = span.1 ∨ pick span = span.2) {o : Option String}
    {b : Option Value} (h : readBound today key kind pick o = .ok b) :
    (o ≠ none → b ≠ none) ∧ ∀ v ∈ b, kind.Holds v := by
  cases o with
  | none =>
    obtain rfl := Except.ok.inj h
    simp
  | some raw =>
    obtain ⟨-, span, hspan, rfl⟩ := readBound_some_eq_ok_iff.1 h
    obtain ⟨hfirst, hlast⟩ := holds_of_readSpan hspan
    refine ⟨fun _ => Option.some_ne_none _, ?_⟩
    intro v hv
    obtain rfl := Option.some.inj hv
    rcases hpick span with hp | hp
    · exact hp ▸ hfirst
    · exact hp ▸ hlast

theorem keepsTo_of_ofCriterion {c : Criterion} {ms : List Matcher}
    (h : ofCriterion today key kind c = .ok ms) : ∀ m ∈ ms, KeepsTo kind m := by
  cases c with
  | plain raw =>
    obtain ⟨m, hm, rfl⟩ := ofCriterion_plain_eq_ok_iff.1 h
    simpa using keepsTo_of_ofText hm
  | anyOf raws =>
    intro m hm
    obtain ⟨raw, -, hraw⟩ := Outcome.exists_of_mem_of_mapM h hm
    exact keepsTo_of_ofText hraw
  | range min max =>
    obtain ⟨hwritten, first, last, hfirst, hlast, rfl⟩ := ofCriterion_range_eq_ok h
    obtain ⟨hsome, hfirst⟩ := holds_of_readBound (fun _ => .inl rfl) hfirst
    obtain ⟨hsome', hlast⟩ := holds_of_readBound (fun _ => .inr rfl) hlast
    simpa using keepsTo_interval_iff.2 ⟨hwritten.imp hsome hsome', hfirst, hlast⟩

theorem accepts_unbounded_iff {v : Value} :
    (interval none none).accepts v = true ↔ v ≠ .null := by
  cases v <;> simp [accepts, Value.isNull]

end Matcher

namespace Test

variable {α O C : Type} [Key C] {S : Schema α O C} {today : Date} {r : Requirement C} {t : Test C}

theorem keepsTo_of_ofRequirement (ht : ofRequirement S today r = .ok t) :
    ∀ m ∈ t.matchers, m.KeepsTo (S.kind r.key) := by
  obtain ⟨ms, hms, rfl⟩ := ofRequirement_eq_ok_iff.1 ht
  exact Matcher.keepsTo_of_ofCriterion hms

/-- The matchers of a requirement accept values of the kind of its key alone, and none of them is an
interval without ends, which would accept all values but null. So whatever else stands among the
values of an entity, the requirement is met by those of the kind or not at all. -/
theorem typeSound (ht : ofRequirement S today r = .ok t) :
    (∀ m ∈ t.matchers, ∀ v, m.accepts v = true → (S.kind r.key).Holds v) ∧
    (∀ first last, .interval first last ∈ t.matchers → (first ≠ none ∨ last ≠ none) ∧
      (∀ v ∈ first, (S.kind r.key).Holds v) ∧ ∀ v ∈ last, (S.kind r.key).Holds v) ∧
    (∀ v, (Matcher.interval none none).accepts v = true ↔ v ≠ .null) ∧
    (r.negated = false → ∀ a, r.IsMet S today a ↔
      ∃ v ∈ S.values a r.key, (S.kind r.key).Holds v ∧ ∃ m ∈ t.matchers, m.accepts v = true) := by
  have hkeeps := keepsTo_of_ofRequirement ht
  refine ⟨?_, ?_, fun v => Matcher.accepts_unbounded_iff, ?_⟩
  · intro m hm v
    exact Matcher.holds_of_accepts (hkeeps m hm)
  · intro first last hm
    exact Matcher.keepsTo_interval_iff.1 (hkeeps _ hm)
  · intro hr a
    rw [isMet_iff_accepts ht hr]
    constructor
    · intro h
      obtain ⟨v, hv, m, hm, haccepts⟩ := h
      exact ⟨v, hv, Matcher.holds_of_accepts (hkeeps m hm) haccepts, m, hm, haccepts⟩
    · intro h
      obtain ⟨v, hv, -, haccepts⟩ := h
      exact ⟨v, hv, haccepts⟩

/-- Not even the pattern for texts of all sorts finds a post without an uploader. -/
theorem typeSound_noUploader :
    let p : Post := ⟨⟨1⟩, none, ["cat"], .safe, 0, 0, 0, 640, 480, ⟨0, 0, by decide⟩⟩
    let r : Requirement PostField := ⟨.uploader, .anyOf ["cat", "*"], false⟩
    (∃ t, ofRequirement Post.schema ⟨2024, 6, 15⟩ r = .ok t) ∧
      ¬ r.IsMet Post.schema ⟨2024, 6, 15⟩ p := by
  intro p r
  have ht : ofRequirement Post.schema ⟨2024, 6, 15⟩ r =
      .ok ⟨.uploader, false, [.pattern [.literal 'c', .literal 'a', .literal 't'],
        .pattern [.run]]⟩ := rfl
  obtain ⟨-, -, -, hmet⟩ := typeSound ht
  refine ⟨⟨_, ht⟩, ?_⟩
  rw [hmet rfl]
  intro h
  obtain ⟨v, hv, hholds, -⟩ := h
  obtain rfl : v = .null := List.mem_singleton.1 hv
  cases hholds

end Test

end EntitySearch
