import EntitySearch.Criterion
import EntitySearch.Proofs.Mark

/-!
The text of a criterion. Two dots that are not escaped make a range, else commas that are not
escaped make a choice, and all other texts are plain. Written back, a criterion gives the text that
it was read from, so no two texts are read alike (`ofText_lossless`).
-/

namespace EntitySearch.Criterion

open Text

/-- The criterion as it is written: nothing for a missing bound, commas between the texts of a
choice. -/
def written : Criterion → String
  | .plain s => s
  | .anyOf ss => ",".intercalate ss
  | .range min max => min.getD "" ++ ".." ++ max.getD ""

theorem toList_getD_bound (cs : List Char) : ((bound cs).getD "").toList = cs := by
  cases cs with
  | nil => rfl
  | cons c cs => simp [bound]

theorem map_toList_map_ofList (parts : List (List Char)) :
    (parts.map String.ofList).map String.toList = parts := by
  simp [Function.comp_def]

variable {s : String}

theorem cutDots_eq_none_iff :
    cutBare? ['.', '.'] s.toList = none ↔ ¬ HasBare ['.', '.'] s.toList :=
  cutBare?_eq_none_iff (by decide) (by decide)

theorem ofText_of_cut {before after : List Char}
    (h : cutBare? ['.', '.'] s.toList = some (before, after)) :
    ofText s = .range (bound before) (bound after) := by
  rw [ofText, h]

theorem ofText_of_comma (hdots : ¬ HasBare ['.', '.'] s.toList) (hcomma : HasBare [','] s.toList) :
    ofText s = .anyOf ((splitBare ',' s.toList).map String.ofList) := by
  rw [ofText, cutDots_eq_none_iff.2 hdots]
  exact if_pos ((one_lt_length_splitBare_iff (by decide)).2 hcomma)

theorem ofText_of_plain (hdots : ¬ HasBare ['.', '.'] s.toList)
    (hcomma : ¬ HasBare [','] s.toList) : ofText s = .plain s := by
  rw [ofText, cutDots_eq_none_iff.2 hdots]
  exact if_neg (mt (one_lt_length_splitBare_iff (by decide)).1 hcomma)

/-- Every text falls into one of three cases. -/
inductive Reads (s : String) : Criterion → Prop
  | range {before after : List Char} (h : FirstCut ['.', '.'] s.toList before after) :
      Reads s (.range (bound before) (bound after))
  | anyOf {parts : List (List Char)} (hdots : ¬ HasBare ['.', '.'] s.toList)
      (hcomma : HasBare [','] s.toList) (h : FullSplit ',' s.toList parts) :
      Reads s (.anyOf (parts.map String.ofList))
  | plain (hdots : ¬ HasBare ['.', '.'] s.toList) (hcomma : ¬ HasBare [','] s.toList) :
      Reads s (.plain s)

theorem reads_ofText (s : String) : Reads s (ofText s) := by
  cases hcut : cutBare? ['.', '.'] s.toList with
  | some parts =>
    rw [ofText_of_cut hcut]
    exact .range ((cutBare?_eq_some_iff (by decide) (by decide)).1 hcut)
  | none =>
    have hdots := cutDots_eq_none_iff.1 hcut
    by_cases hcomma : HasBare [','] s.toList
    · rw [ofText_of_comma hdots hcomma]
      exact .anyOf hdots hcomma (fullSplit_splitBare (by decide) s.toList)
    · rw [ofText_of_plain hdots hcomma]
      exact .plain hdots hcomma

theorem written_of_reads {c : Criterion} (h : Reads s c) : c.written = s := by
  cases h with
  | range h =>
    rw [← String.toList_inj, written, String.toList_append, String.toList_append,
      toList_getD_bound, toList_getD_bound]
    exact h.joined.symm
  | anyOf _ _ h =>
    rw [← String.toList_inj, written, String.toList_intercalate, map_toList_map_ofList]
    exact h.joined
  | plain => rfl

namespace Reads

variable {c : Criterion}

theorem exists_range_iff (h : Reads s c) :
    (∃ min max, c = .range min max) ↔ HasBare ['.', '.'] s.toList := by
  cases h with
  | range h => simpa using ⟨_, _, h.joined, h.bare⟩
  | anyOf hdots => simpa using hdots
  | plain hdots => simpa using hdots

theorem exists_anyOf_iff (h : Reads s c) :
    (∃ texts, c = .anyOf texts) ↔ ¬ HasBare ['.', '.'] s.toList ∧ HasBare [','] s.toList := by
  cases h with
  | range h => simpa using fun hdots => absurd ⟨_, _, h.joined, h.bare⟩ hdots
  | anyOf hdots hcomma => simpa using ⟨hdots, hcomma⟩
  | plain hdots hcomma => simpa using fun _ => hcomma

theorem eq_plain_iff (h : Reads s c) :
    c = .plain s ↔ ¬ HasBare ['.', '.'] s.toList ∧ ¬ HasBare [','] s.toList := by
  cases h with
  | range h => simpa using fun hdots => absurd ⟨_, _, h.joined, h.bare⟩ hdots
  | anyOf hdots hcomma => simpa using fun _ => hcomma
  | plain hdots hcomma => simpa using ⟨hdots, hcomma⟩

end Reads

/-- A text is cut at the first two dots that are not escaped, or else at all commas that are not
escaped. Nothing of it is lost, whatever dots, commas and backslashes stand next to each other. -/
theorem ofText_lossless (s : String) :
    ((∃ min max, ofText s = .range min max) ↔ HasBare ['.', '.'] s.toList) ∧
    (∀ min max, ofText s = .range min max → ∃ before after,
      FirstCut ['.', '.'] s.toList before after ∧ min = bound before ∧ max = bound after) ∧
    ((∃ texts, ofText s = .anyOf texts) ↔
      ¬ HasBare ['.', '.'] s.toList ∧ HasBare [','] s.toList) ∧
    (∀ texts, ofText s = .anyOf texts →
      2 ≤ texts.length ∧ FullSplit ',' s.toList (texts.map String.toList)) ∧
    (ofText s = .plain s ↔ ¬ HasBare ['.', '.'] s.toList ∧ ¬ HasBare [','] s.toList) ∧
    (ofText s).written = s ∧ ∀ s', ofText s' = ofText s → s' = s := by
  have hreads := reads_ofText s
  refine ⟨hreads.exists_range_iff, ?_, hreads.exists_anyOf_iff, ?_, hreads.eq_plain_iff,
    written_of_reads hreads, ?_⟩
  · intro min max hrange
    rw [hrange] at hreads
    cases hreads with
    | range h => exact ⟨_, _, h, rfl, rfl⟩
  · intro texts htexts
    rw [htexts] at hreads
    cases hreads with
    | @anyOf parts _ hcomma h =>
      rw [map_toList_map_ofList, List.length_map, ← (splitBare_eq_iff (by decide)).2 h]
      exact ⟨(one_lt_length_splitBare_iff (by decide)).2 hcomma, fullSplit_splitBare (by decide) _⟩
  · intro s' hs'
    calc s' = (ofText s').written := (written_of_reads (reads_ofText s')).symm
      _ = (ofText s).written := by rw [hs']
      _ = s := written_of_reads hreads

example : ofText "1\\..2...3,4" = .range (some "1\\..2") (some ".3,4") := by decide

end EntitySearch.Criterion
