import EntitySearch.Filter
import EntitySearch.Proofs.OrderRoundTrip

/-!
The ways to build an order out of pairs of a key and a direction. Pushed one after another, taken as
a whole, set in a filter or read from a text, the same pairs lead to the same order, which has each
key at the rank of its first pair and in the direction of its last one (`SortOrder.leadsTo_ofList`).
-/

namespace EntitySearch.SortOrder

open InsertionMap

variable {K : Type} [DecidableEq K]

/-- An order that pairs are pushed to, one after another. -/
inductive Pushed : List (K × Direction) → SortOrder K → Prop
  | none : Pushed [] .empty
  | push {l : List (K × Direction)} {o : SortOrder K} (h : Pushed l o) (k : K) (d : Direction) :
    Pushed (l ++ [(k, d)]) (o.insert k d)

theorem pushed_iff {l : List (K × Direction)} {o : SortOrder K} : Pushed l o ↔ o = .ofList l := by
  constructor
  · intro h
    induction h with
    | none => rfl
    | push _ k d ih => rw [ofList_concat, ih]
  · rintro rfl
    induction l using List.reverseRecOn with
    | nil => exact .none
    | append_singleton l e ih =>
      -- The last pair of the sequence is the one that was pushed last.
      rw [ofList_concat]
      exact ih.push e.1 e.2

/-- All ways lead from the pairs to the order `o`, and from its own pairs to itself. It has each key
once, at the rank of its first pair and in the direction of its last one. -/
structure LeadsTo [Key K] (l : List (K × Direction)) (o : SortOrder K) : Prop where
  merges : Merges l o
  pushed_iff : ∀ o', Pushed l o' ↔ o' = o
  ofList_eq : .ofList l = o
  withOrder_eq : ∀ {C : Type} (f : Filter K C), (f.withOrder (.ofList l)).order = o
  read_eq : (∀ e ∈ l, IsOrderName (Key.name e.1).toList) → ∀ parts, List.Forall₂ Spells l parts →
    read (String.ofList ([','].intercalate parts)) = .ok o
  rebuilt_eq : .ofList o.entries = o

/-- There is one such order for any sequence of pairs. All types of sort keys here have names that
can stand in an order text. -/
theorem leadsTo_ofList :
    (∀ {K : Type} [DecidableEq K] [Key K] (l : List (K × Direction)),
      LeadsTo l (.ofList l) ∧ ∀ o, Merges l o → o = .ofList l) ∧
    HasOrderNames UserSort ∧ HasOrderNames TagSort ∧ HasOrderNames PostSort := by
  refine ⟨?_, hasOrderNames_sorts⟩
  intro K _ _ l
  refine ⟨?_, fun o => Merges.eq_ofList⟩
  constructor
  · exact merges_ofList l
  · exact fun o' => SortOrder.pushed_iff
  · rfl
  · exact fun f => rfl
  · intro hnames parts
    exact read_of_spells hnames
  · exact ofList_entries _

/-- The name comes first and is turned round by the last pair. -/
theorem leadsTo_ofList_tags :
    let l : List (TagSort × Direction) :=
      [(.name, .ascending), (.usages, .descending), (.name, .descending)]
    let o : SortOrder TagSort := .ofList [(.name, .descending), (.usages, .descending)]
    Pushed l o ∧ Merges l o ∧ HasOrderNames TagSort ∧
      read "name:Asc,usages:desc,name:DESCENDING" = .ok o := by
  intro l o
  have ho : .ofList l = o := by decide
  let parts := ["name:Asc".toList, "usages:desc".toList, "name:DESCENDING".toList]
  have hparts : List.Forall₂ Spells l parts :=
    .cons ⟨"Asc".toList, .inl (by decide), by decide⟩
      (.cons ⟨"desc".toList, .inl (by decide), by decide⟩
        (.cons ⟨"DESCENDING".toList, .inr (by decide), by decide⟩ .nil))
  have htext : "name:Asc,usages:desc,name:DESCENDING" =
      String.ofList ([','].intercalate parts) := by decide
  obtain ⟨hall, -, hnames, -⟩ := leadsTo_ofList
  obtain ⟨hleads, -⟩ := hall l
  rw [ho] at hleads
  rw [htext]
  exact ⟨(hleads.pushed_iff o).2 rfl, hleads.merges, hnames,
    hleads.read_eq (fun e _ => hnames e.1) parts hparts⟩

end EntitySearch.SortOrder
