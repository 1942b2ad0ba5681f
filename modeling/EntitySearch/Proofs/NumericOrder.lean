import EntitySearch.Proofs.Comparison
import Mathlib.Algebra.Order.Field.Power
import Mathlib.Algebra.Order.Field.Rat
import Mathlib.Data.Nat.SuccPred
import Mathlib.Order.WithBot

/-!
The total order of the bit patterns and the order of the numbers that they stand for. The two agree
but for the zeros, of which the negative one comes first in the total order, and for the patterns
that are no numbers, which lie at its ends (`Binary64.rank_le_iff_before`).
-/

namespace EntitySearch.Binary64

/-- The number that a finite pattern stands for. -/
def toRat (x : Binary64) : ℚ :=
  (if x.negative then -1 else 1) * x.significand * 2 ^ x.exponent

/-- The number among the rational ones and the two that are infinite, if there is one. -/
def number? (x : Binary64) : Option (WithBot (WithTop ℚ)) :=
  if x.isNaN then none
  else if x.isInfinite then some (if x.negative then ⊥ else ⊤)
  else some ((x.toRat : WithTop ℚ) : WithBot (WithTop ℚ))

/-- At most, as numbers: it holds of no pattern that is none. -/
def NumLE (x y : Binary64) : Prop := ∃ a b, x.number? = some a ∧ y.number? = some b ∧ a ≤ b

/-- Equal as numbers. -/
def NumEq (x y : Binary64) : Prop := ∃ a, x.number? = some a ∧ y.number? = some a

/-- At most, where matching asks for it: as numbers, but the negative zero comes before the other
one, and what is no number lies below all of them or above all of them, by its sign. -/
def Before (x y : Binary64) : Prop :=
  (x.isNaN = true ∧ x.negative = true) ∨ (y.isNaN = true ∧ y.negative = false) ∨
    (x.NumLE y ∧ ¬ (x = zero false ∧ y = zero true))

section Units

/-- How often the least number above zero goes into the number of a magnitude. -/
def units (m : Nat) : Nat :=
  if m < exponentWeight then m
  else (exponentWeight + m % exponentWeight) * 2 ^ (m / exponentWeight - 1)

/-- The next magnitude has the next significand, or the least one and the next exponent. -/
theorem units_lt_succ (m : Nat) : units m < units (m + 1) := by
  have hweight : exponentWeight = 4503599627370496 := rfl
  by_cases hsmall : m + 1 < exponentWeight
  · rw [units, units, if_pos hsmall, if_pos (by omega)]
    omega
  by_cases hlast : m + 1 = exponentWeight
  · rw [units, units, if_pos (by omega), if_neg (by omega), hlast, Nat.mod_self,
      Nat.div_self (by decide)]
    omega
  rw [units, units, if_neg (by omega), if_neg (by omega)]
  have hpos : 0 < 2 ^ (m / exponentWeight - 1) := Nat.two_pow_pos _
  by_cases hcarry : (m + 1) % exponentWeight = 0
  · -- The significand is the largest one, and the next number is twice the least of this exponent.
    have hmod : m % exponentWeight = exponentWeight - 1 := by
      rw [hweight] at hcarry ⊢
      omega
    have hdiv : (m + 1) / exponentWeight - 1 = (m / exponentWeight - 1) + 1 := by
      rw [hweight] at hcarry hsmall ⊢
      omega
    rw [hcarry, hmod, hdiv, Nat.pow_succ, Nat.mul_comm _ 2, ← Nat.mul_assoc]
    exact Nat.mul_lt_mul_of_pos_right (by omega) hpos
  · have hmod : (m + 1) % exponentWeight = m % exponentWeight + 1 := by
      rw [hweight] at hcarry ⊢
      omega
    have hdiv : (m + 1) / exponentWeight = m / exponentWeight := by
      rw [hweight] at hcarry ⊢
      omega
    rw [hmod, hdiv]
    exact Nat.mul_lt_mul_of_pos_right (by omega) hpos

theorem units_strictMono : StrictMono units := strictMono_nat_of_lt_succ units_lt_succ

def signedUnits (x : Binary64) : Int :=
  if x.negative then -(units x.magnitude) else units x.magnitude

theorem significand_mul_pow (x : Binary64) :
    (x.significand : ℚ) * 2 ^ x.exponent = units x.magnitude / 2 ^ 1074 := by
  rw [significand, exponent, units]
  split
  · rw [zpow_neg, div_eq_mul_inv]
    norm_cast
  · next h =>
    have hweight : exponentWeight = 4503599627370496 := rfl
    have hdiv : ((x.magnitude / exponentWeight : ℕ) : ℤ) - 1075 =
        ((x.magnitude / exponentWeight - 1 : ℕ) : ℤ) - (1074 : ℕ) := by
      rw [hweight] at h ⊢
      omega
    rw [hdiv, zpow_sub₀ two_ne_zero, zpow_natCast, zpow_natCast, Nat.cast_mul, Nat.cast_pow,
      Nat.cast_ofNat, mul_div_assoc]

theorem toRat_eq_div (x : Binary64) : x.toRat = x.signedUnits / 2 ^ 1074 := by
  rw [toRat, mul_assoc, significand_mul_pow, signedUnits]
  split
  · rw [Int.cast_neg, Int.cast_natCast, neg_one_mul, neg_div]
  · rw [Int.cast_natCast, one_mul]

theorem toRat_le_iff {x y : Binary64} : x.toRat ≤ y.toRat ↔ x.signedUnits ≤ y.signedUnits := by
  have hpos : (0 : ℚ) < 2 ^ 1074 := pow_pos two_pos _
  rw [toRat_eq_div, toRat_eq_div, div_le_div_iff_of_pos_right hpos, Int.cast_le]

end Units

section Rank

variable {x y : Binary64}

theorem units_eq_zero_iff {m : Nat} : units m = 0 ↔ m = 0 :=
  units_strictMono.injective.eq_iff' rfl

theorem eq_zero_false_iff : x = zero false ↔ x.rank = 0 :=
  ⟨fun h => h ▸ rfl, fun h => rank_injective h⟩

theorem eq_zero_true_iff : x = zero true ↔ x.rank = -1 :=
  ⟨fun h => h ▸ rfl, fun h => rank_injective h⟩

/-- As far as sign, exponent and significand tell, the two orders differ in the zeros alone. -/
theorem rank_le_iff (x y : Binary64) :
    x.rank ≤ y.rank ↔ x.toRat ≤ y.toRat ∧ ¬ (x = zero false ∧ y = zero true) := by
  have hle := units_strictMono.le_iff_le (a := x.magnitude) (b := y.magnitude)
  have hge := units_strictMono.le_iff_le (a := y.magnitude) (b := x.magnitude)
  have hx := units_eq_zero_iff (m := x.magnitude)
  have hy := units_eq_zero_iff (m := y.magnitude)
  rw [toRat_le_iff, eq_zero_false_iff, eq_zero_true_iff, signedUnits, signedUnits, rank, rank]
  split <;> split <;> omega

end Rank

section Numbers

variable {x y : Binary64}

theorem number?_of_isNaN (h : x.isNaN = true) : x.number? = none := by
  rw [number?, if_pos h]

/-- A number is infinite, or it lies between the two that are. -/
theorem number?_cases (h : x.isNaN = false) :
    (x.number? = some ⊥ ∧ x.signedUnits = -units infiniteMagnitude) ∨
    (x.number? = some ⊤ ∧ x.signedUnits = units infiniteMagnitude) ∨
    (x.number? = some ((x.toRat : WithTop ℚ) : WithBot (WithTop ℚ)) ∧
      -units infiniteMagnitude < x.signedUnits ∧ x.signedUnits < units infiniteMagnitude) := by
  have hle : x.magnitude ≤ infiniteMagnitude := by simpa [isNaN] using h
  by_cases hinfinite : x.magnitude = infiniteMagnitude
  · have hinf : x.isInfinite = true := by simpa [isInfinite] using hinfinite
    have hvalue : x.number? = some (if x.negative then ⊥ else ⊤) := by
      rw [number?, h, hinf]
      rfl
    rw [hvalue, signedUnits, hinfinite]
    cases x.negative with
    | true => exact .inl ⟨rfl, rfl⟩
    | false => exact .inr (.inl ⟨rfl, rfl⟩)
  · have hinf : x.isInfinite = false := by simpa [isInfinite] using hinfinite
    have hlt : units x.magnitude < units infiniteMagnitude :=
      units_strictMono (Nat.lt_of_le_of_ne hle hinfinite)
    have hvalue : x.number? = some ((x.toRat : WithTop ℚ) : WithBot (WithTop ℚ)) := by
      rw [number?, h, hinf]
      rfl
    refine .inr (.inr ⟨hvalue, ?_⟩)
    rw [signedUnits]
    split <;> omega

theorem numLE_iff (hx : x.isNaN = false) (hy : y.isNaN = false) :
    x.NumLE y ↔ x.toRat ≤ y.toRat := by
  have hpos : 0 < units infiniteMagnitude := units_strictMono (by decide : 0 < infiniteMagnitude)
  have hle := toRat_le_iff (x := x) (y := y)
  -- Counted in units, an infinite number is as far out as no finite one.
  rcases number?_cases hx with ⟨hx, hx'⟩ | ⟨hx, hx'⟩ | ⟨hx, hx'⟩ <;>
    rcases number?_cases hy with ⟨hy, hy'⟩ | ⟨hy, hy'⟩ | ⟨hy, hy'⟩ <;>
      simp [NumLE, hx, hy, hle] <;> omega

theorem numEq_iff : x.NumEq y ↔ x.NumLE y ∧ y.NumLE x := by
  constructor
  · intro h
    obtain ⟨a, hx, hy⟩ := h
    exact ⟨⟨a, a, hx, hy, le_rfl⟩, a, a, hy, hx, le_rfl⟩
  · intro h
    obtain ⟨⟨a, b, hx, hy, hab⟩, b', a', hy', hx', hba⟩ := h
    obtain rfl := Option.some.inj (hx.symm.trans hx')
    obtain rfl := Option.some.inj (hy.symm.trans hy')
    obtain rfl := le_antisymm hab hba
    exact ⟨a, hx, hy⟩

theorem not_isNaN_of_number? {a : WithBot (WithTop ℚ)} (h : x.number? = some a) :
    x.isNaN = false := by
  by_contra hnan
  rw [number?_of_isNaN (by simpa using hnan)] at h
  contradiction

theorem NumLE.not_isNaN (h : x.NumLE y) : x.isNaN = false ∧ y.isNaN = false := by
  obtain ⟨a, b, hx, hy, -⟩ := h
  exact ⟨not_isNaN_of_number? hx, not_isNaN_of_number? hy⟩

theorem isFinite_iff : x.isFinite = true ↔ x.magnitude < infiniteMagnitude := decide_eq_true_iff

theorem not_isNaN_of_isFinite (h : x.isFinite = true) : x.isNaN = false := by
  rw [isFinite_iff] at h
  simpa [isNaN] using h.le

end Numbers

section Matching

variable {x y : Binary64}

theorem rank_le_iff_of_isNaN_left (hx : x.isNaN = true) (hy : y.isFinite = true) :
    x.rank ≤ y.rank ↔ x.negative = true := by
  have hx' : infiniteMagnitude < x.magnitude := of_decide_eq_true hx
  have hy' := isFinite_iff.1 hy
  rw [rank, rank]
  cases x.negative <;> cases y.negative <;>
    simp only [if_true, Bool.false_eq_true, if_false, iff_true, iff_false] <;> omega

theorem rank_le_iff_of_isNaN_right (hx : x.isFinite = true) (hy : y.isNaN = true) :
    x.rank ≤ y.rank ↔ y.negative = false := by
  have hx' := isFinite_iff.1 hx
  have hy' : infiniteMagnitude < y.magnitude := of_decide_eq_true hy
  rw [rank, rank]
  cases x.negative <;> cases y.negative <;>
    simp only [if_true, Bool.false_eq_true, Bool.true_eq_false, if_false, iff_true, iff_false] <;>
      omega

/-- The total order puts a finite number where matching asks for it. -/
theorem rank_le_iff_before (h : x.isFinite = true ∨ y.isFinite = true) :
    x.rank ≤ y.rank ↔ x.Before y := by
  have hfinite {z : Binary64} (hz : z.isFinite = true) : ¬ z.isNaN = true := by
    simp [not_isNaN_of_isFinite hz]
  by_cases hx : x.isNaN = true
  · have hy : y.isFinite = true := h.resolve_left fun hfin => hfinite hfin hx
    have hnot : ¬ x.NumLE y := by simp [NumLE, number?_of_isNaN hx]
    rw [rank_le_iff_of_isNaN_left hx hy, Before]
    simp [hx, hfinite hy, hnot]
  by_cases hy : y.isNaN = true
  · have hx : x.isFinite = true := h.resolve_right fun hfin => hfinite hfin hy
    have hnot : ¬ x.NumLE y := by simp [NumLE, number?_of_isNaN hy]
    rw [rank_le_iff_of_isNaN_right hx hy, Before]
    simp [hy, hfinite hx, hnot]
  rw [rank_le_iff, ← numLE_iff (by simpa using hx) (by simpa using hy), Before]
  simp [hx, hy]

theorem eq_iff_numEq (hy : y.isNaN = false) :
    x = y ↔ x.NumEq y ∧ x.negative = y.negative := by
  constructor
  · rintro rfl
    rcases number?_cases hy with ⟨h, -⟩ | ⟨h, -⟩ | ⟨h, -⟩ <;> exact ⟨⟨_, h, h⟩, rfl⟩
  · intro h
    obtain ⟨heq, hsign⟩ := h
    obtain ⟨hle, hge⟩ := numEq_iff.1 heq
    obtain ⟨hx, hy⟩ := hle.not_isNaN
    rw [numLE_iff hx hy] at hle
    rw [numLE_iff hy hx] at hge
    -- Zeros of one sign are one zero, so that here the two orders agree.
    apply rank_injective
    apply le_antisymm
    · rw [rank_le_iff]
      refine ⟨hle, ?_⟩
      rintro ⟨rfl, rfl⟩
      contradiction
    · rw [rank_le_iff]
      refine ⟨hge, ?_⟩
      rintro ⟨rfl, rfl⟩
      contradiction

end Matching

end EntitySearch.Binary64
