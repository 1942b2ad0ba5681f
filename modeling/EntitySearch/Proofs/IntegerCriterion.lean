import EntitySearch.Proofs.Alternatives
import EntitySearch.Proofs.DateCriterion
import Mathlib.Algebra.Group.Int.Defs

/-!
Whole numbers as criteria. A number in decimal is read back as that number if it fits in 64 bits and
is refused if it does not, however many digits it has (`Matcher.readSpan_integer`). So the query
texts that ask for a number or for a range of numbers ask for just these (`Query.countsExactly`).
-/

namespace EntitySearch

open Text

namespace Number

/-- A whole number in decimal: at most one sign, and digits with any number of zeros in front. -/
inductive Writes : Int → List Char → Prop
  | unsigned (width n : Nat) : Writes n (padded width n)
  | plus (width n : Nat) : Writes n ('+' :: padded width n)
  | minus (width n : Nat) : Writes (-n) ('-' :: padded width n)

theorem fitsInt64_iff {i : Int} : fitsInt64 i = true ↔ -2 ^ 63 ≤ i ∧ i < 2 ^ 63 := by
  rw [fitsInt64, Bool.and_eq_true, decide_eq_true_iff, decide_eq_true_iff]
  rfl

section Padded

variable (width n : Nat)

theorem padded_ne_nil : padded width n ≠ [] :=
  List.append_ne_nil_of_right_ne_nil _ Nat.toDigits_ne_nil

theorem isDigit_of_mem_padded {c : Char} (h : c ∈ padded width n) : c.isDigit = true := by
  rcases List.mem_append.1 h with h | h
  · rw [List.eq_of_mem_replicate h]
    decide
  · exact Nat.isDigit_of_mem_toDigits (by decide) (by decide) h

/-- Zeros in front count for nothing. -/
theorem ofDigits_padded : ofDigits (padded width n) = n := by
  let zeros := width - (Nat.toDigits 10 n).length
  calc ofDigits (padded width n)
      = Nat.ofDigitChars 10 (List.replicate zeros '0' ++ Nat.toDigits 10 n) 0 := rfl
    _ = Nat.ofDigitChars 10 (Nat.toDigits 10 n) (10 ^ zeros * 0) := by
        rw [Nat.ofDigitChars_append, Nat.ofDigitChars_replicate_zero]
    _ = n := by rw [Nat.mul_zero, Nat.ofDigitChars_ten_toDigits]

theorem nat?_padded : nat? (padded width n) = some n := by
  have hempty : (padded width n).isEmpty = false := by
    simpa using padded_ne_nil width n
  have hdigits : (padded width n).all Char.isDigit = true := by
    rw [List.all_eq_true]
    exact fun c => isDigit_of_mem_padded width n
  rw [nat?, hempty, hdigits, ofDigits_padded]
  rfl

end Padded

namespace Writes

variable {i : Int} {cs : List Char}

theorem int?_eq (h : Writes i cs) : int? cs = some i := by
  cases h with
  | unsigned width n =>
    -- Only a minus sign in front would be taken for a sign here, and a digit is none.
    obtain ⟨c, ds, hcons⟩ := List.exists_cons_of_ne_nil (padded_ne_nil width n)
    have hminus : c ≠ '-' := by
      rintro rfl
      exact absurd (isDigit_of_mem_padded width n (hcons ▸ List.mem_cons_self)) (by decide)
    have hread := unsigned?_of_nat? (nat?_padded width n)
    rw [hcons] at hread ⊢
    rw [int?, hread]
    · rfl
    · intro _ h
      exact hminus (List.cons.inj h).1
  | plus width n =>
    have hread : int? ('+' :: padded width n) = (nat? (padded width n)).map Int.ofNat := rfl
    rw [hread, nat?_padded]
    rfl
  | minus width n =>
    rw [int?, nat?_padded]
    rfl

theorem ne_nil (h : Writes i cs) : cs ≠ [] := by
  cases h with
  | unsigned width n => exact padded_ne_nil width n
  | _ => exact List.cons_ne_nil _ _

theorem isDateChar_or_plus (h : Writes i cs) {c : Char} (hc : c ∈ cs) :
    IsDateChar c ∨ c = '+' := by
  cases h with
  | unsigned width n => exact .inl (.inl (isDigit_of_mem_padded width n hc))
  | plus width n =>
    rcases List.mem_cons.1 hc with rfl | hc
    · exact .inr rfl
    · exact .inl (.inl (isDigit_of_mem_padded width n hc))
  | minus width n =>
    rcases List.mem_cons.1 hc with rfl | hc
    · exact .inl (.inr rfl)
    · exact .inl (.inl (isDigit_of_mem_padded width n hc))

theorem not_mem (h : Writes i cs) {c : Char} (hc : ¬ (IsDateChar c ∨ c = '+')) : c ∉ cs :=
  fun hmem => hc (h.isDateChar_or_plus hmem)

theorem not_blank (h : Writes i cs) : cs.any isBlank = false := by
  rw [List.any_eq_false]
  intro c hc
  rcases h.isDateChar_or_plus hc with hdate | rfl
  · simp [hdate.not_blank]
  · decide

end Writes

end Number

/-- A whole number with one of its texts. -/
structure WrittenInteger where
  value : Int
  text : List Char
  writes : Number.Writes value text

namespace WrittenInteger

def raw (n : WrittenInteger) : String := String.ofList n.text

/-- The number can be held in 64 bits with a sign. -/
def Fits (n : WrittenInteger) : Prop := -2 ^ 63 ≤ n.value ∧ n.value < 2 ^ 63

/-- Whether the number fits, and the fault of its text if it does not. -/
def check (key : String) (n : WrittenInteger) : Except InputError Unit :=
  if Number.fitsInt64 n.value then .ok () else .error (.criterionValue key n.raw)

theorem check_eq_ok_iff {key : String} {n : WrittenInteger} :
    (∃ u, n.check key = .ok u) ↔ n.Fits := by
  rw [Fits, ← Number.fitsInt64_iff, check]
  split <;> simp [*]

theorem check_eq_error_iff {key : String} {n : WrittenInteger} {e : InputError} :
    n.check key = .error e ↔ ¬ n.Fits ∧ e = .criterionValue key n.raw := by
  rw [Fits, ← Number.fitsInt64_iff, check]
  split <;> simp [*, eq_comm]

variable (n : WrittenInteger)

theorem not_hasBare {c : Char} (mark : List Char) (hc : ¬ (IsDateChar c ∨ c = '+')) :
    ¬ HasBare (c :: mark) n.text := by
  intro h
  obtain ⟨before, after, hjoined, -⟩ := h
  apply n.writes.not_mem hc
  rw [hjoined]
  simp

theorem bound_text : Criterion.bound n.text = some n.raw := by
  rw [Criterion.bound, List.isEmpty_eq_false_iff.2 n.writes.ne_nil]
  rfl

theorem cutDots (rest : List Char) :
    cutBare? ['.', '.'] (n.text ++ (['.', '.'] ++ rest)) = some (n.text, rest) :=
  cutBare?_of_plain_mark (n.writes.not_mem (by decide)) (n.writes.not_mem (by decide)) (by decide)

end WrittenInteger

/-- The ways to ask for whole numbers. -/
inductive IntegerWording
  | exactly (a : WrittenInteger)
  | atLeast (a : WrittenInteger)
  | atMost (b : WrittenInteger)
  | between (a b : WrittenInteger)

namespace IntegerWording

def text : IntegerWording → List Char
  | .exactly a => a.text
  | .atLeast a => a.text ++ ['.', '.']
  | .atMost b => ['.', '.'] ++ b.text
  | .between a b => a.text ++ ['.', '.'] ++ b.text

/-- The numbers as they stand in the text, from left to right. -/
def numbers : IntegerWording → List WrittenInteger
  | .exactly a => [a]
  | .atLeast a => [a]
  | .atMost b => [b]
  | .between a b => [a, b]

/-- The number is asked for. None is between a number and a smaller one. -/
def Asks : IntegerWording → Int → Prop
  | .exactly a, v => v = a.value
  | .atLeast a, v => a.value ≤ v
  | .atMost b, v => v ≤ b.value
  | .between a b, v => a.value ≤ v ∧ v ≤ b.value

def first : IntegerWording → Option Int
  | .exactly a | .atLeast a | .between a _ => some a.value
  | .atMost _ => none

def last : IntegerWording → Option Int
  | .exactly b | .atMost b | .between _ b => some b.value
  | .atLeast _ => none

def matcher (w : IntegerWording) : Matcher :=
  .interval (w.first.map .integer) (w.last.map .integer)

theorem accepts_matcher_iff (w : IntegerWording) {v : Int} :
    w.matcher.accepts (.integer v) = true ↔ w.Asks v := by
  have hinterval : w.matcher.accepts (.integer v) = true ↔
      (∀ a ∈ w.first, a ≤ v) ∧ ∀ b ∈ w.last, v ≤ b :=
    Matcher.accepts_interval_iff (fun _ => rfl) (fun _ _ => rfl) fun _ _ => rfl
  rw [hinterval]
  cases w with
  | exactly a =>
    simp only [first, last, Asks, Option.mem_some_iff, forall_eq']
    omega
  | _ => simp [first, last, Asks]

def criterion : IntegerWording → Criterion
  | .exactly a => .plain a.raw
  | .atLeast a => .range (some a.raw) none
  | .atMost b => .range none (some b.raw)
  | .between a b => .range (some a.raw) (some b.raw)

theorem ofText_text (w : IntegerWording) :
    Criterion.ofText (String.ofList w.text) = w.criterion := by
  have hrange {before after : List Char}
      (h : cutBare? ['.', '.'] w.text = some (before, after)) :
      Criterion.ofText (String.ofList w.text) =
        .range (Criterion.bound before) (Criterion.bound after) := by
    apply Criterion.ofText_of_cut
    rw [String.toList_ofList, h]
  cases w with
  | exactly a =>
    apply Criterion.ofText_of_plain <;> rw [String.toList_ofList]
    · exact a.not_hasBare ['.'] (by decide)
    · exact a.not_hasBare [] (by decide)
  | atLeast a =>
    rw [hrange (a.cutDots []), a.bound_text]
    rfl
  | atMost b =>
    have hfront : cutBare? ['.', '.'] ([] ++ (['.', '.'] ++ b.text)) = some ([], b.text) :=
      cutBare?_of_plain_mark (by simp) (by simp) (by decide)
    rw [hrange hfront, b.bound_text]
    rfl
  | between a b =>
    rw [text, List.append_assoc] at hrange ⊢
    rw [hrange (a.cutDots b.text), a.bound_text, b.bound_text]
    rfl

theorem not_blank_text (w : IntegerWording) : w.text.any isBlank = false := by
  cases w <;> simp [text, (WrittenInteger.writes _).not_blank, isBlank]

end IntegerWording

namespace Matcher

variable (today : Date) (key : String) (n : WrittenInteger)

theorem readSpan_integer : readSpan today key .integer n.raw =
    (n.check key).map fun _ => (.integer n.value, .integer n.value) := by
  have hescape : '\\' ∉ n.text := n.writes.not_mem (by decide)
  rw [readSpan, WrittenInteger.raw, String.toList_ofList, unescape?_of_plain hescape]
  simp only [ValueKind.span?, readInteger?, trim_of_not_blank n.writes.not_blank, n.writes.int?_eq,
    WrittenInteger.check, Option.filter_some]
  cases Number.fitsInt64 n.value <;> rfl

theorem ofText_integer : ofText today key .integer n.raw =
    (n.check key).map fun _ => .interval (some (.integer n.value)) (some (.integer n.value)) := by
  simp only [ofText, readSpan_integer]
  cases n.check key <;> rfl

theorem readBound_integer {pick : Value × Value → Value} (hpick : ∀ v, pick (v, v) = v) :
    readBound today key .integer pick (some n.raw) =
      (n.check key).map fun _ => some (.integer n.value) := by
  rw [readBound_some rfl, readSpan_integer]
  cases n.check key with
  | error e => rfl
  | ok => exact congrArg (fun v => Except.ok (some v)) (hpick _)

/-- The numbers of a text are read from left to right. -/
theorem ofCriterion_integer (w : IntegerWording) :
    ofCriterion today key .integer w.criterion =
      (w.numbers.mapM (WrittenInteger.check key)).map fun _ => [w.matcher] := by
  have hlower (n : WrittenInteger) : readBound today key .integer Prod.fst (some n.raw) =
      (n.check key).map fun _ => some (.integer n.value) :=
    readBound_integer today key n fun _ => rfl
  have hupper (n : WrittenInteger) : readBound today key .integer Prod.snd (some n.raw) =
      (n.check key).map fun _ => some (.integer n.value) :=
    readBound_integer today key n fun _ => rfl
  cases w with
  | exactly a =>
    simp only [IntegerWording.criterion, IntegerWording.numbers, ofCriterion_plain, ofText_integer,
      List.mapM_cons, List.mapM_nil]
    cases a.check key <;> rfl
  | atLeast a =>
    simp only [IntegerWording.criterion, IntegerWording.numbers, ofCriterion, hlower,
      List.mapM_cons, List.mapM_nil]
    cases a.check key <;> rfl
  | atMost b =>
    simp only [IntegerWording.criterion, IntegerWording.numbers, ofCriterion, hupper,
      List.mapM_cons, List.mapM_nil]
    cases b.check key <;> rfl
  | between a b =>
    simp only [IntegerWording.criterion, IntegerWording.numbers, ofCriterion, hlower, hupper,
      List.mapM_cons, List.mapM_nil]
    cases a.check key with
    | error e => rfl
    | ok => cases b.check key <;> rfl

end Matcher

namespace Query

variable {α O C : Type} [DecidableEq O] [Key O] [Key C]

/-- The query text that asks for whole numbers under a key is read. The filter has a meaning if all
its numbers fit, else the fault is that of the first that does not, and it is met by the entities
whose one number under the key is asked for. -/
structure CountsExactly (S : Schema α O C) (today : Date) (k : C) (w : IntegerWording)
    (f : Filter O C) : Prop where
  read : Query.read S (Key.name k ++ ":" ++ String.ofList w.text) = .ok f
  valid_iff : f.validate S today = .ok () ↔ ∀ n ∈ w.numbers, n.Fits
  fault_iff : ∀ e, f.validate S today = .error e ↔ ∃ before n after,
    w.numbers = before ++ n :: after ∧ (∀ m ∈ before, m.Fits) ∧ ¬ n.Fits ∧
      e = .criterionValue (Key.name k) (String.ofList n.text)
  holds_iff : ∀ p, f.compile S today = .ok p → ∀ a, ∃ v, S.values a k = [.integer v] ∧
    (p.holds S a = true ↔ w.Asks v)

variable {S : Schema α O C} {k : C}

theorem read_integer (hname : IsKeyName (Key.name k).toList) (hsort : Key.name k ≠ "sort")
    (w : IntegerWording) : read S (Key.name k ++ ":" ++ String.ofList w.text) =
      .ok (ofItems [.requirement ⟨k, w.criterion, false⟩]) := by
  have htoken : Key.name k ++ ":" ++ String.ofList w.text =
      String.ofList (sign false ++ ((Key.name k).toList ++ ':' :: w.text)) := by
    rw [← String.toList_inj]
    simp [sign]
  have hword := isWord_append_colon hname.not_blank w.not_blank_text
  rw [htoken, read_sign S false hword (head?_append_colon hname.not_minus w.text),
    readBody_key S false hname hsort, w.ofText_text]
  rfl

omit [Key O] in
theorem compile_integer (today : Date) (hkind : S.kind k = .integer) (w : IntegerWording) :
    (ofItems [.requirement ⟨k, w.criterion, false⟩] : Filter O C).compile S today =
      (w.numbers.mapM (WrittenInteger.check (Key.name k))).map
        fun _ => [⟨k, false, [w.matcher]⟩] := by
  have hcompile : (ofItems [.requirement ⟨k, w.criterion, false⟩] : Filter O C).compile S today =
      (Test.ofRequirement S today ⟨k, w.criterion, false⟩).map fun t => [t] := by
    change [_].mapM _ = _
    rw [List.mapM_cons, List.mapM_nil]
    cases Test.ofRequirement S today ⟨k, w.criterion, false⟩ <;> rfl
  rw [hcompile, Test.ofRequirement_eq_map, hkind, Matcher.ofCriterion_integer]
  cases w.numbers.mapM (WrittenInteger.check (Key.name k)) <;> rfl

theorem countsExactly_of_values (today : Date) (hname : IsKeyName (Key.name k).toList)
    (hsort : Key.name k ≠ "sort") (hkind : S.kind k = .integer)
    (hvalues : ∀ a, ∃ v, S.values a k = [.integer v]) (w : IntegerWording) :
    CountsExactly S today k w (ofItems [.requirement ⟨k, w.criterion, false⟩] : Filter O C) := by
  have hcompile := compile_integer (O := O) today hkind w
  refine ⟨read_integer hname hsort w, ?_, ?_, ?_⟩
  · rw [Filter.validate, hcompile, Outcome.map_eq_ok_iff]
    simp only [and_true]
    rw [Outcome.exists_map_eq_ok_iff, Outcome.exists_mapM_eq_ok_iff]
    simp only [WrittenInteger.check_eq_ok_iff]
  · intro e
    rw [Filter.validate, hcompile, Outcome.map_eq_error_iff, Outcome.map_eq_error_iff,
      Outcome.mapM_eq_error_iff]
    simp only [WrittenInteger.check_eq_ok_iff, WrittenInteger.check_eq_error_iff]
    rfl
  · intro p hp a
    rw [hcompile] at hp
    obtain ⟨_, -, rfl⟩ := Outcome.map_eq_ok_iff.1 hp
    obtain ⟨v, hv⟩ := hvalues a
    refine ⟨v, hv, ?_⟩
    -- With one value and one matcher, the entity is found if the one accepts the other.
    rw [← w.accepts_matcher_iff]
    simp [Predicate.holds, Test.holds, hv]

/-- Under the keys of posts and tags that count something, the numbers asked for are just those that
are written, however large they are; a range from one number to a smaller one asks for none. -/
theorem countsExactly (today : Date) (w : IntegerWording) :
    (∀ k, Post.schema.kind k = .integer → ∃ f, CountsExactly Post.schema today k w f) ∧
      ∀ k, Tag.schema.kind k = .integer → ∃ f, CountsExactly Tag.schema today k w f := by
  constructor
  · intro k hkind
    have hsort : Key.name k ≠ "sort" := by
      cases k <;> decide
    have hvalues (p : Post) : ∃ v, Post.schema.values p k = [.integer v] := by
      cases k <;> first | exact ⟨_, rfl⟩ | exact absurd hkind (by decide)
    exact ⟨_, countsExactly_of_values today (isKeyName_postField k) hsort hkind hvalues w⟩
  · intro k hkind
    have hsort : Key.name k ≠ "sort" := by
      cases k <;> decide
    have hvalues (t : Tag) : ∃ v, Tag.schema.values t k = [.integer v] := by
      cases k <;> first | exact ⟨_, rfl⟩ | exact absurd hkind (by decide)
    exact ⟨_, countsExactly_of_values today (isKeyName_tagField k) hsort hkind hvalues w⟩

/-- A number with a sign and zeros in front is found; one past the largest of 64 bits is refused. -/
theorem countsExactly_signed :
    let tag : Tag := ⟨⟨1⟩, ["cat"], "animal", -4, ⟨0, 0, by decide⟩, none⟩
    (∃ f, read Tag.schema "usages:-05..+3" = .ok f ∧
      ∃ p, f.compile Tag.schema ⟨2024, 6, 15⟩ = .ok p ∧ p.holds Tag.schema tag = true) ∧
    ∃ f, read Post.schema "score:9223372036854775808.." = .ok f ∧
      f.validate Post.schema ⟨2024, 6, 15⟩ =
        .error (.criterionValue "score" "9223372036854775808") := by
  intro tag
  let a : WrittenInteger := ⟨-5, _, .minus 2 5⟩
  let b : WrittenInteger := ⟨3, _, .plus 1 3⟩
  let c : WrittenInteger := ⟨9223372036854775808, _, .unsigned 0 9223372036854775808⟩
  obtain ⟨-, htag⟩ := countsExactly ⟨2024, 6, 15⟩ (.between a b)
  obtain ⟨hpost, -⟩ := countsExactly ⟨2024, 6, 15⟩ (.atLeast c)
  obtain ⟨f, hf⟩ := htag .usages rfl
  obtain ⟨g, hg⟩ := hpost .score rfl
  have hfits : ∀ n ∈ (IntegerWording.between a b).numbers, n.Fits := by
    rw [IntegerWording.numbers, List.forall_mem_cons, List.forall_mem_singleton]
    exact ⟨⟨by decide, by decide⟩, ⟨by decide, by decide⟩⟩
  have hlarge : ¬ c.Fits := fun h => absurd h.2 (by decide)
  obtain ⟨p, hp, -⟩ := Outcome.map_eq_ok_iff.1 (hf.valid_iff.2 hfits)
  obtain ⟨v, hv, hholds⟩ := hf.holds_iff p hp tag
  obtain rfl : -4 = v := Value.integer.inj (List.cons.inj hv).1
  refine ⟨⟨f, hf.read, p, hp, hholds.2 ⟨by decide, by decide⟩⟩, g, hg.read, ?_⟩
  exact (hg.fault_iff _).2 ⟨[], c, [], rfl, nofun, hlarge, by decide⟩

end Query

end EntitySearch
