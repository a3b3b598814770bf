/-!
# Finite double-precision numbers

A `Double` is a sign, a mantissa below 2^53 and a power of two, kept in the one form that is
normal (or the smallest exponent), so equal values are equal structures. All arithmetic is exact
arithmetic on natural numbers followed by one rounding: `Double.ofRatio?` takes the nearest double
to a quotient, a half going to the even mantissa, and fails where the result would not be finite.
-/

namespace GatewayAdmission

/-- The quotient of two natural numbers, rounded to the nearest; a half goes to the even one. -/
def roundDiv (num den : Nat) : Nat :=
  let q := num / den
  let r := num % den
  if 2 * r < den then q
  else if den < 2 * r then q + 1
  else if q % 2 = 0 then q else q + 1

/-- The number `± mantissa * 2 ^ (exponent - 1074)`. -/
structure Double where
  negative : Bool
  mantissa : Nat
  exponent : Nat
  mantissa_lt : mantissa < Nat.pow 2 53
  normal : Nat.pow 2 52 ≤ mantissa ∨ exponent = 0
  exponent_le : exponent ≤ 2045
deriving DecidableEq

namespace Double

/-- Zero, with a sign. -/
def zero (negative : Bool) : Double :=
  ⟨negative, 0, 0, by decide, Or.inr rfl, by decide⟩

def isZero (d : Double) : Bool := d.mantissa == 0

/-- The absolute value as a quotient of natural numbers. -/
def ratio (d : Double) : Nat × Nat :=
  if 1074 ≤ d.exponent then (d.mantissa * Nat.pow 2 (d.exponent - 1074), 1)
  else (d.mantissa, Nat.pow 2 (1074 - d.exponent))

/-- The double with this mantissa and exponent, if they are in normal form. -/
def ofParts? (negative : Bool) (mantissa exponent : Nat) : Option Double :=
  if h : mantissa < Nat.pow 2 53 ∧ (Nat.pow 2 52 ≤ mantissa ∨ exponent = 0) ∧ exponent ≤ 2045 then
    some ⟨negative, mantissa, exponent, h.1, h.2.1, h.2.2⟩
  else none

/-- The exponent at which a positive quotient has 53 bits before the point, at least 0. -/
def scaleOf (num den : Nat) : Nat :=
  let top := num.log2 + 1074
  let guess := top - den.log2 - 52
  -- The guess is exact or one too large.
  let below := if 52 + den.log2 ≤ top then
      num * Nat.pow 2 1074 < den * Nat.pow 2 (52 + guess) else false
  if below then guess - 1 else guess

/-- The double nearest to `num / den`, or `none` where it would not be finite. -/
def ofRatio? (negative : Bool) (num den : Nat) : Option Double :=
  let e := if num = 0 then 0 else scaleOf num den
  let m := roundDiv (num * Nat.pow 2 1074) (den * Nat.pow 2 e)
  if m = Nat.pow 2 53 then ofParts? negative (Nat.pow 2 52) (e + 1) else ofParts? negative m e

/-- The double nearest to `10 ^ k`. -/
def tenPow? (k : Nat) : Option Double := ofRatio? false (Nat.pow 10 k) 1

/-- The rounded product, with the sign of the first factor. -/
def mul? (a b : Double) : Option Double :=
  ofRatio? a.negative (a.ratio.1 * b.ratio.1) (a.ratio.2 * b.ratio.2)

/-- The rounded quotient, with the sign of the dividend. -/
def div? (a b : Double) : Option Double :=
  ofRatio? a.negative (a.ratio.1 * b.ratio.2) (a.ratio.2 * b.ratio.1)

end Double

end GatewayAdmission
