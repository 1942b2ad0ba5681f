import EntitySearch.Json.Printer
import EntitySearch.Json.Reader
import Mathlib.Data.List.Basic
import Mathlib.Data.List.TakeWhile
import Mathlib.Data.Nat.Digits.Defs

/-!
JSON values without parts, and their texts. The reader takes the text of a string, of a whole number,
of a truth value and of null for what it was written from (`Json.ofText?_text`): every character of a
string is written so that it is read back alone, and the digits of a number end only where its text
does.
-/

namespace EntitySearch.Json

open Number Text

/-- A value without parts that is no float. -/
inductive IsPlain : Json → Prop
  | null : IsPlain .null
  | boolean (b : Bool) : IsPlain (.boolean b)
  | integer {i : Int} (h : fitsInt64 i = true) : IsPlain (.integer i)
  | string (s : String) : IsPlain (.string s)

section Strings

theorem takeUnicode_hexDigits {n : Nat} (hn : n < 0x20) (rest : List Char) :
    takeUnicode (hexDigits 4 n ++ rest) = some (Char.ofNat n, rest) := by
  have hread : ∀ n < 0x20, ofHexDigits? (hexDigits 4 n) = some n := by decide
  have hunit : takeUnit (hexDigits 4 n ++ rest) = some (n, rest) := by
    have htake : takeUnit (hexDigits 4 n ++ rest) =
        (ofHexDigits? (hexDigits 4 n)).map fun n => (n, rest) := by
      simp [hexDigits, takeUnit]
    rw [htake, hread n hn]
    rfl
  rw [takeUnicode, hunit]
  simp only [Option.bind_eq_bind, Option.bind_some]
  -- The number is below all surrogates, so that one unit is a character by itself.
  rw [if_neg (by omega), if_neg (by omega)]

/-- Each character is read back from what is written for it, whatever follows. -/
theorem takeString_escapeChar (fuel : Nat) (done : List Char) (c : Char) (rest : List Char) :
    takeString (fuel + 1) done (escapeChar c ++ rest) = takeString fuel (c :: done) rest := by
  rw [escapeChar]
  by_cases hquote : c = '"'
  · rw [if_pos hquote, hquote]
    rfl
  · by_cases hslash : c = '\\'
    · rw [if_neg hquote, if_pos hslash, hslash]
      rfl
    · rw [if_neg hquote, if_neg hslash]
      by_cases hcontrol : c.toNat < 0x20
      · rw [if_pos hcontrol]
        -- The short escapes of some control characters are not used: all have four digits.
        have hescape : takeEscape ('u' :: (hexDigits 4 c.toNat ++ rest)) = some (c, rest) := by
          rw [takeEscape, takeUnicode_hexDigits hcontrol, Char.ofNat_toNat]
        rw [List.cons_append, List.cons_append, takeString, hescape]
        rfl
      · -- All other characters stand for themselves.
        rw [if_neg hcontrol, List.singleton_append, takeString]
        · rw [if_neg hcontrol]
        · exact hquote
        · exact hslash

/-- Every character takes one step at least, and so does the closing quote. -/
theorem takeString_flatMap (cs : List Char) {fuel : Nat} (hfuel : cs.length < fuel)
    (done rest : List Char) : takeString fuel done (cs.flatMap escapeChar ++ '"' :: rest) =
      some (String.ofList (done.reverse ++ cs), rest) := by
  induction cs generalizing fuel done with
  | nil =>
    obtain ⟨fuel, rfl⟩ := Nat.exists_eq_succ_of_ne_zero (Nat.ne_of_gt hfuel)
    rw [List.append_nil]
    rfl
  | cons c cs ih =>
    obtain ⟨fuel, rfl⟩ := Nat.exists_eq_succ_of_ne_zero (Nat.ne_of_gt (Nat.zero_lt_of_lt hfuel))
    rw [List.flatMap_cons, List.append_assoc, takeString_escapeChar,
      ih (Nat.lt_of_succ_lt_succ hfuel)]
    simp

theorem length_le_length_flatMap (cs : List Char) :
    cs.length ≤ (cs.flatMap escapeChar).length := by
  have hpos (c : Char) : 1 ≤ (escapeChar c).length := by
    rw [escapeChar]
    split_ifs <;> simp
  induction cs with
  | nil => exact Nat.le_refl 0
  | cons c cs ih =>
    rw [List.flatMap_cons, List.length_append, List.length_cons]
    have hc := hpos c
    omega

theorem ofText?_quote (s : String) : ofText? (quote s) = some (.string s) := by
  let written := s.toList.flatMap escapeChar ++ ['"']
  have hfuel : s.toList.length < written.length + 1 := by
    have hlength := length_le_length_flatMap s.toList
    rw [List.length_append, List.length_singleton]
    omega
  have hread : takeString (written.length + 1) [] written = some (s, []) := by
    rw [takeString_flatMap s.toList hfuel, List.reverse_nil, List.nil_append, String.ofList_toList]
  have hvalue (fuel depth : Nat) (cs : List Char) : takeValue (fuel + 1) depth ('"' :: cs) =
      (takeString (cs.length + 1) [] cs).map fun r => (.string r.1, r.2) := rfl
  have hquote : (quote s).toList = '"' :: written := String.toList_ofList
  rw [ofText?, hquote, hvalue, hread]
  rfl

end Strings

section Integers

/-- Digits that are read as one whole number: there is no zero in front of others. -/
structure IsNumeral (ds : List Char) : Prop where
  ne_nil : ds ≠ []
  isDigit : ∀ c ∈ ds, c.isDigit = true
  no_zero : ¬ (ds.head? = some '0' ∧ 1 < ds.length)

theorem head?_toDigits_ne_zero {n : Nat} (hn : 1 ≤ n) :
    (Nat.toDigits 10 n).head? ≠ some '0' := by
  induction n using Nat.strongRecOn with
  | ind n ih =>
    by_cases hlt : n < 10
    · rw [Nat.toDigits_of_lt_base hlt]
      have hdigit : ∀ n < 10, 1 ≤ n → [Nat.digitChar n].head? ≠ some '0' := by decide
      exact hdigit n hlt hn
    · -- The first digit is that of the number without its last digit.
      rw [Nat.toDigits_of_base_le (by decide) (Nat.le_of_not_lt hlt),
        List.head?_append_of_ne_nil _ Nat.toDigits_ne_nil]
      exact ih (n / 10) (by omega) (by omega)

theorem isNumeral_toDigits (n : Nat) : IsNumeral (Nat.toDigits 10 n) := by
  constructor
  · exact Nat.toDigits_ne_nil
  · intro c hc
    exact Nat.isDigit_of_mem_toDigits (by decide) (by decide) hc
  · rintro ⟨hhead, hlength⟩
    rcases Nat.eq_zero_or_pos n with rfl | hn
    · rw [Nat.toDigits_of_lt_base (by decide)] at hlength
      exact absurd hlength (by decide)
    · exact head?_toDigits_ne_zero hn hhead

theorem ofDigits_toDigits (n : Nat) : ofDigits (Nat.toDigits 10 n) = n :=
  Nat.ofDigitChars_ten_toDigits

variable {ds : List Char}

theorem takeParts_numeral (h : IsNumeral ds) (negative : Bool) :
    takeParts ((if negative then ['-'] else []) ++ ds) =
      some (⟨negative, ds, none, none⟩, []) := by
  have hwhole : ds.takeWhile Char.isDigit = ds := List.takeWhile_eq_self_iff.2 h.isDigit
  have hrest : ds.drop ds.length = [] := List.drop_length
  have hempty : ¬ (ds.isEmpty = true ∨ (ds.head? = some '0' ∧ 1 < ds.length)) := by
    rw [List.isEmpty_iff, not_or]
    exact ⟨h.ne_nil, h.no_zero⟩
  cases negative with
  | true =>
    show takeParts ('-' :: ds) = _
    rw [takeParts]
    simp only [hwhole, if_neg hempty, hrest]
    rfl
  | false =>
    show takeParts ds = _
    rw [takeParts]
    · simp only [hwhole, if_neg hempty, hrest]
      rfl
    · rintro rest rfl
      exact absurd (h.isDigit '-' List.mem_cons_self) (by decide)

/-- A whole number that a signed word holds is kept apart from floats, with either sign. -/
theorem toJson?_numeral {n : Nat} {negative : Bool} (hzero : negative = true → n ≠ 0)
    (hfits : fitsInt64 (if negative then -(n : Int) else n) = true) :
    NumberParts.toJson? ⟨negative, Nat.toDigits 10 n, none, none⟩ =
      some (.integer (if negative then -(n : Int) else n)) := by
  -- A negative number has to be in the signed word and not zero, the others only in a word.
  have hword : if negative = true then n ≠ 0 ∧ fitsInt64 (if negative then -(n : Int) else n)
      else n ≤ maxNat64 := by
    cases negative with
    | true => exact ⟨hzero rfl, hfits⟩
    | false =>
      simp only [fitsInt64, Bool.and_eq_true, decide_eq_true_eq] at hfits
      show n ≤ 0xFFFFFFFFFFFFFFFF
      simp only [Bool.false_eq_true, if_false] at hfits
      omega
  simp only [NumberParts.toJson?, ofDigits_toDigits]
  rw [if_pos ⟨rfl, rfl, hword⟩]

theorem takeNumber_numeral {n : Nat} {negative : Bool} (hzero : negative = true → n ≠ 0)
    (hfits : fitsInt64 (if negative then -(n : Int) else n) = true) :
    takeNumber ((if negative then ['-'] else []) ++ Nat.toDigits 10 n) =
      some (.integer (if negative then -(n : Int) else n), []) := by
  rw [takeNumber, takeParts_numeral (isNumeral_toDigits n)]
  show (do some (← NumberParts.toJson? ⟨negative, Nat.toDigits 10 n, none, none⟩, [])) = _
  rw [toJson?_numeral hzero hfits]
  rfl

/-- Neither a minus sign nor a digit begins any other value. -/
theorem takeValue_of_digit {c : Char} (hc : c = '-' ∨ c.isDigit = true) (fuel depth : Nat)
    (cs : List Char) : takeValue (fuel + 1) depth (c :: cs) = takeNumber (c :: cs) := by
  have hne {d : Char} (hd : d ≠ '-' ∧ d.isDigit = false) : c ≠ d := by
    rintro rfl
    rcases hc with hc | hc
    · exact hd.1 hc
    · rw [hd.2] at hc
      contradiction
  have hspace : isSpace c = false := by
    simp [isSpace, hne (d := ' ') (by decide), hne (d := '\t') (by decide),
      hne (d := '\n') (by decide), hne (d := '\r') (by decide)]
  have hskip : skipSpace (c :: cs) = c :: cs := by
    rw [skipSpace, List.dropWhile_cons, hspace]
    rfl
  rw [takeValue, hskip]
  -- The other cases have a first character of their own, which is not `c`.
  split
  · contradiction
  all_goals first
    | rfl
    | next heq => exact absurd (List.cons.inj heq).1 (hne (by decide))

theorem toList_toString (i : Int) : ∃ (n : Nat) (negative : Bool),
    (negative = true → n ≠ 0) ∧ i = (if negative then -(n : Int) else n) ∧
      (toString i).toList = (if negative then ['-'] else []) ++ Nat.toDigits 10 n := by
  cases i with
  | ofNat n => exact ⟨n, false, nofun, rfl, Nat.toList_repr⟩
  | negSucc n =>
    refine ⟨n + 1, true, fun _ => Nat.succ_ne_zero n, rfl, ?_⟩
    show ("-" ++ (n + 1).repr).toList = _
    rw [String.toList_append, Nat.toList_repr]
    rfl

theorem ofText?_toString {i : Int} (hfits : fitsInt64 i = true) :
    ofText? (toString i) = some (.integer i) := by
  obtain ⟨n, negative, hzero, rfl, htext⟩ := toList_toString i
  have hnumber := takeNumber_numeral hzero hfits
  rw [← htext] at hnumber
  obtain ⟨c, cs, hcons, hc⟩ : ∃ c cs, (toString (if negative then -(n : Int) else n)).toList =
      c :: cs ∧ (c = '-' ∨ c.isDigit = true) := by
    rw [htext]
    cases negative with
    | true => exact ⟨'-', _, rfl, .inl rfl⟩
    | false =>
      obtain ⟨c, cs, hcons⟩ := List.exists_cons_of_ne_nil (isNumeral_toDigits n).ne_nil
      refine ⟨c, cs, hcons, .inr ((isNumeral_toDigits n).isDigit c ?_)⟩
      rw [hcons]
      exact List.mem_cons_self
  rw [hcons] at hnumber
  rw [ofText?, hcons, takeValue_of_digit hc, hnumber]
  rfl

end Integers

/-- The text of a value without parts is read back as that value. -/
theorem ofText?_text {j : Json} (hj : j.IsPlain) : ofText? j.text = some j := by
  cases hj with
  | null => rfl
  | boolean b => cases b <;> rfl
  | integer h =>
    rw [text]
    exact ofText?_toString h
  | string s =>
    rw [text]
    exact ofText?_quote s

end EntitySearch.Json
