import EntitySearch.Config.Text
import EntitySearch.Tag
import EntitySearch.Proofs.Resolution
import EntitySearch.Proofs.TextFault

/-!
Page sizes of configurations. Checking a configuration looks at the sizes it lists, and this is
enough for the names it does not list, which all have the default size. A request that leaves its
size to a checked configuration is therefore never refused for its size (`GivesSizes`), wherever the
configuration comes from (`ofText_allows_pageSizeFor`).
-/

namespace EntitySearch

namespace Config

variable {c : Config}

/-- A page may have this size. -/
def Allows (c : Config) (size : Nat) : Prop :=
  1 ≤ size ∧ ∀ max, c.maxPageSize = some max → size ≤ max

structure HasAllowedSizes (c : Config) : Prop where
  default : c.Allows c.defaultPageSize
  listed : ∀ name size, c.pageSizes.get? name = some size → c.Allows size

/-- Requests can leave their size to the configuration: every name whatsoever has an allowed size,
and no request without a size of its own is refused for its size. -/
structure GivesSizes (c : Config) : Prop where
  allows : ∀ name, c.Allows (c.pageSizeFor name)
  limit_pos : ∀ max, c.maxPageSize = some max → 1 ≤ max
  resolve : ∀ {α O C : Type} [DecidableEq O] [Key O] [Key C] (S : Schema α O C) (r : Request),
    r.pageSize = none → ∀ e, r.resolve S c = .error e →
      (∀ size, e ≠ .pageSize size) ∧ ∀ size max, e ≠ .pageSizeTooLarge size max

theorem checkSize_eq_ok_iff {name : String} {size : Nat} :
    checkSize c.maxPageSize name size = .ok ⟨⟩ ↔ c.Allows size := by
  have hpos : 1 ≤ size ↔ size ≠ 0 := Nat.one_le_iff_ne_zero
  rw [Allows, hpos]
  by_cases hzero : size = 0
  · simp [checkSize, hzero]
  · cases c.maxPageSize with
    | none => simp [checkSize, hzero]
    | some max => by_cases hlt : max < size <;> simp [checkSize, hzero, hlt]; omega

theorem validate_eq_ok_iff : c.validate = .ok ⟨⟩ ↔ c.HasAllowedSizes := by
  rw [validate, Outcome.bind_eq_ok_iff]
  simp only [checkSize_eq_ok_iff, Outcome.forM_eq_ok_iff, Prod.forall,
    ← InsertionMap.get?_eq_some_iff]
  constructor
  · intro h
    obtain ⟨_, hdefault, hlisted⟩ := h
    exact ⟨checkSize_eq_ok_iff.1 hdefault, hlisted⟩
  · intro h
    exact ⟨_, checkSize_eq_ok_iff.2 h.default, h.listed⟩

namespace HasAllowedSizes

/-- A name has its listed size or the default, and both have been looked at. -/
theorem allows_pageSizeFor (h : c.HasAllowedSizes) (name : String) :
    c.Allows (c.pageSizeFor name) := by
  rw [pageSizeFor]
  cases hsize : c.pageSizes.get? name with
  | none => exact h.default
  | some size => exact h.listed name size hsize

theorem maxPageSize_pos (h : c.HasAllowedSizes) {max : Nat} (hmax : c.maxPageSize = some max) :
    1 ≤ max :=
  Nat.le_trans h.default.1 (h.default.2 max hmax)

variable {α O C : Type} [DecidableEq O] [Key O] [Key C] {S : Schema α O C} {r : Request}
  {e : InputError}

theorem eq_pageNumber_or_isOfText_of_resolve (h : c.HasAllowedSizes) (hnone : r.pageSize = none)
    (he : r.resolve S c = .error e) : e = .pageNumber 0 ∨ e.IsOfText := by
  have hsize : c.Allows (r.effectiveSize S c) := by
    rw [Request.effectiveSize, hnone]
    exact h.allows_pageSizeFor S.plural
  obtain ⟨i, hflaw, -⟩ := Request.resolve_eq_error_iff.1 he
  cases hflaw with
  | page => exact .inl rfl
  | size hzero => exact absurd hsize.1 (by omega)
  | limit hmax hlt => exact absurd (hsize.2 _ hmax) (by omega)
  | query _ hread => exact .inr (Query.failsOnly_read S _ e hread)
  | sort _ hread => exact .inr (SortOrder.failsOnly_read _ e hread)

theorem givesSizes (h : c.HasAllowedSizes) : c.GivesSizes := by
  refine ⟨h.allows_pageSizeFor, fun max => h.maxPageSize_pos, ?_⟩
  intro α O C _ _ _ S r hnone e he
  rcases h.eq_pageNumber_or_isOfText_of_resolve hnone he with rfl | hword
  · exact ⟨nofun, nofun⟩
  · constructor
    · rintro size rfl
      exact hword
    · rintro size max rfl
      exact hword

end HasAllowedSizes

theorem validate_of_ofText {text : String} (h : ofText text = .ok c) : c.validate = .ok ⟨⟩ := by
  rw [ofText] at h
  split at h
  · contradiction
  · split at h
    · contradiction
    · next hvalid =>
      rw [← Except.ok.inj h]
      exact hvalid

/-- A configuration is valid if and only if the default size and all listed sizes are allowed.
Requests can leave their size to a valid configuration, and so to every one that has been read from
a text. -/
theorem ofText_allows_pageSizeFor :
    (∀ c : Config, c.validate = .ok ⟨⟩ ↔ c.HasAllowedSizes) ∧
    (∀ c : Config, c.validate = .ok ⟨⟩ → c.GivesSizes) ∧
    ∀ text c, ofText text = .ok c → c.GivesSizes := by
  have hgives (c : Config) (hvalid : c.validate = .ok ⟨⟩) : c.GivesSizes :=
    (validate_eq_ok_iff.1 hvalid).givesSizes
  refine ⟨fun c => validate_eq_ok_iff, hgives, fun text c htext => ?_⟩
  exact hgives c (validate_of_ofText htext)

/-- The sizes of posts are listed and the sizes of tags are not. -/
theorem ofText_allows_pageSizeFor_tags :
    let text := "page_sizes:\n  posts: 40\n"
    let c : Config := ⟨20, some 100, .ofList [("posts", 40)]⟩
    let r : Request := ⟨some 2, none, some "cat sort:shoe_size", none⟩
    let e : InputError := .unknownKey "tag order key" "shoe_size"
    ofText text = .ok c ∧ c.HasAllowedSizes ∧ c.Allows (c.pageSizeFor "tags") ∧
      r.pageSize = none ∧ r.resolve Tag.schema c = .error e ∧ ∀ size, e ≠ .pageSize size := by
  have htokens : Yaml.tokens? "page_sizes:\n  posts: 40\n" =
      some [.blockMapping, .key, .plain "page_sizes", .value, .blockMapping, .key, .plain "posts",
        .value, .plain "40", .blockEnd, .blockEnd] := by decide +kernel
  have htext : ofText "page_sizes:\n  posts: 40\n" =
      .ok ⟨20, some 100, .ofList [("posts", 40)]⟩ := by
    rw [ofText, Yaml.ofText?, htokens]
    rfl
  intro text c r e
  have hvalid : c.validate = .ok ⟨⟩ := by decide
  have hnone : r.pageSize = none := rfl
  have he : r.resolve Tag.schema c = .error e := rfl
  have hgives : c.GivesSizes := ofText_allows_pageSizeFor.2.2 text c htext
  exact ⟨htext, (ofText_allows_pageSizeFor.1 c).1 hvalid, hgives.allows "tags", hnone, he,
    (hgives.resolve Tag.schema r hnone e he).1⟩

end Config

end EntitySearch
