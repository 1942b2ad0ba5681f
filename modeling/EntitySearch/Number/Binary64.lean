/-!
Floating-point numbers of 64 bits (binary64): their order, the rounding of an exact quotient,
and the two operations needed here. A finite number is `significand · 2 ^ exponent`, and every
operation on finite numbers is one rounding of an exact quotient to the nearest number, a tie
to the even neighbour.

The total order puts every bit pattern at a place of its own: negative before positive, and the
patterns that are no numbers at the outer ends.
-/

namespace EntitySearch

structure Binary64 where
  bits : UInt64
  deriving DecidableEq

namespace Binary64

/-- The weight of the bit that holds the sign. -/
def signWeight : Nat := 0x8000000000000000

/-- The weight of the lowest bit of the exponent, above the 52 bits of the fraction. -/
def exponentWeight : Nat := 0x10000000000000

/-- The bit pattern without its sign. -/
def magnitude (x : Binary64) : Nat := x.bits.toNat % signWeight

def negative (x : Binary64) : Bool := signWeight ≤ x.bits.toNat

def ofMagnitude (negative : Bool) (m : Nat) : Binary64 :=
  ⟨UInt64.ofNat (if negative then signWeight + m else m)⟩

def infiniteMagnitude : Nat := 2047 * exponentWeight

def infinity (negative : Bool) : Binary64 := ofMagnitude negative infiniteMagnitude

/-- The quiet pattern that is no number. -/
def nan (negative : Bool) : Binary64 :=
  ofMagnitude negative (infiniteMagnitude + exponentWeight / 2)

def zero (negative : Bool) : Binary64 := ofMagnitude negative 0

def isNaN (x : Binary64) : Bool := infiniteMagnitude < x.magnitude

def isInfinite (x : Binary64) : Bool := x.magnitude == infiniteMagnitude

def isFinite (x : Binary64) : Bool := x.magnitude < infiniteMagnitude

def isZero (x : Binary64) : Bool := x.magnitude == 0

/-- Place in the total order. -/
def rank (x : Binary64) : Int := if x.negative then -(x.magnitude : Int) - 1 else x.magnitude

def totalCompare (x y : Binary64) : Ordering := compare x.rank y.rank

def significand (x : Binary64) : Nat :=
  if x.magnitude < exponentWeight then x.magnitude
  else exponentWeight + x.magnitude % exponentWeight

def exponent (x : Binary64) : Int :=
  if x.magnitude < exponentWeight then -1074 else (x.magnitude / exponentWeight : Nat) - 1075

/-- Numerator and denominator of the size of a finite number. -/
def numerator (x : Binary64) : Nat := x.significand * Nat.pow 2 x.exponent.toNat

def denominator (x : Binary64) : Nat := Nat.pow 2 (-x.exponent).toNat

/-- `num / den` over `2 ^ q`, as a fraction again. -/
def scaled (num den : Nat) (q : Int) : Nat × Nat :=
  (num * Nat.pow 2 (-q).toNat, den * Nat.pow 2 q.toNat)

/-- The exponent of the largest power of two that is not above `num / den`. -/
def binaryLog (num den : Nat) : Int :=
  let k : Int := (num.log2 : Int) - den.log2
  let (n, d) := scaled num den k
  if n < d then k - 1 else k

/-- The integer nearest to `num / den`, of two the even one. -/
def nearest (num den : Nat) : Nat :=
  let m := num / den
  let rest := num % den
  if den < 2 * rest ∨ (2 * rest = den ∧ m % 2 = 1) then m + 1 else m

/-- The number nearest to `num / den`; infinite when that is past the largest finite one. The
significand may round up to the next power of two, which carries into the exponent. -/
def ofRatio (negative : Bool) (num den : Nat) : Binary64 :=
  if num = 0 then zero negative
  else
    let q := max (binaryLog num den - 52) (-1074)
    let (n, d) := scaled num den q
    let m := (q + 1074).toNat * exponentWeight + nearest n d
    if m < infiniteMagnitude then ofMagnitude negative m else infinity negative

/-- `digits · 10 ^ exponent`. Far out of range the answer is known without the power. -/
def ofDecimal (negative : Bool) (digits : Nat) (exponent : Int) : Binary64 :=
  let top := exponent + (Nat.toDigits 10 digits).length
  if digits = 0 ∨ top < -330 then zero negative
  else if 330 < top then infinity negative
  else ofRatio negative (digits * Nat.pow 10 exponent.toNat) (Nat.pow 10 (-exponent).toNat)

def ofNat (n : Nat) : Binary64 := ofRatio false n 1

/-- Product of two numbers of which neither is infinite nor no number. -/
def mulFinite (x y : Binary64) : Binary64 :=
  ofRatio (x.negative != y.negative) (x.numerator * y.numerator) (x.denominator * y.denominator)

/-- Quotient. What is no number is passed on, the dividend first; a quotient without a value
(infinite by infinite, zero by zero) is the negative quiet pattern. -/
def div (x y : Binary64) : Binary64 :=
  let sign := x.negative != y.negative
  if x.isNaN then x
  else if y.isNaN then y
  else if (x.isInfinite && y.isInfinite) || (x.isZero && y.isZero) then nan true
  else if x.isInfinite || y.isZero then infinity sign
  else if y.isInfinite then zero sign
  else ofRatio sign (x.numerator * y.denominator) (x.denominator * y.numerator)

end Binary64

end EntitySearch
