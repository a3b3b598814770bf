import GatewayAdmission.Decimal.Double

/-!
# Numbers of a JSON text

A number written without fraction and exponent is kept exactly while it fits 64 bits, signed if
negative and unsigned otherwise. Every other number is a double: so is `-0`, which has no integer
of its own.

A double is read from the first digits that fit 64 bits. Further digits before the point raise
the exponent by one each, further digits behind it are dropped, and the digits are then scaled by
a power of ten, with one rounding for the digits and one for the scaling. A number that grows
beyond the finite doubles has no value.
-/

namespace GatewayAdmission

/-- An integer from -2^63 up to 2^64 - 1. -/
structure WholeNumber where
  val : Int
  lower : -9223372036854775808 ≤ val
  upper : val < 18446744073709551616
deriving DecidableEq

namespace WholeNumber

def ofInt? (n : Int) : Option WholeNumber :=
  if h : -9223372036854775808 ≤ n ∧ n < 18446744073709551616 then some ⟨n, h.1, h.2⟩ else none

def ofInt32 (n : Int32) : WholeNumber :=
  ⟨n.toInt, by have := n.le_toInt; omega, by have := n.toInt_lt; omega⟩

def ofInt64 (n : Int64) : WholeNumber :=
  ⟨n.toInt, by have := n.le_toInt; omega, by have := n.toInt_lt; omega⟩

def ofUInt16 (n : UInt16) : WholeNumber :=
  ⟨n.toNat, by omega, by have := n.toNat_lt; omega⟩

theorem ofInt?_val (n : WholeNumber) : ofInt? n.val = some n := by
  simp [ofInt?, n.lower, n.upper]

end WholeNumber

inductive Number where
  | whole (n : WholeNumber)
  | double (d : Double)
deriving DecidableEq

/-- The parts of a number as written: digits before the point, digits behind it, exponent. -/
structure Numeral where
  negative : Bool
  digits : List Nat
  fraction : Option (List Nat)
  exponent : Option Int
deriving DecidableEq

namespace Double

/-- Divides by `10 ^ k`, by at most `10 ^ 308` at a time. -/
def shrink? (d : Double) (k : Nat) : Option Double :=
  if k ≤ 308 then (tenPow? k).bind d.div?
  else if d.isZero then some d
  else ((tenPow? 308).bind d.div?).bind fun smaller => smaller.shrink? (k - 308)
termination_by k

/-- Multiplies by `10 ^ k`, or divides where `k` is negative. -/
def scale? (d : Double) (k : Int) : Option Double :=
  if k < 0 then d.shrink? k.natAbs
  else if k ≤ 308 then (tenPow? k.toNat).bind d.mul?
  else if d.isZero then some d
  else none

end Double

namespace Numeral

/-- The digits before the point that fit 64 bits, and how many are left over. -/
def leading (acc : Nat) : List Nat → Nat × Nat
  | [] => (acc, 0)
  | d :: ds => if acc * 10 + d < UInt64.size then leading (acc * 10 + d) ds
    else (acc, ds.length + 1)

/-- Appends the digits behind the point that fit, lowering the exponent by one each. -/
def trailing (acc : Nat) (scale : Int) : List Nat → Nat × Int
  | [] => (acc, scale)
  | d :: ds => if acc * 10 + d < UInt64.size then trailing (acc * 10 + d) (scale - 1) ds
    else (acc, scale)

/-- The double of `digits * 10 ^ scale`, with the sign of the numeral. -/
def double? (x : Numeral) (digits : Nat) (scale : Int) : Option Number :=
  (Double.ofRatio? x.negative digits 1).bind fun d => (d.scale? scale).map .double

/-- The value of a numeral; `none` if it is beyond the finite doubles. -/
def toNumber? (x : Numeral) : Option Number :=
  let (high, excess) := leading 0 x.digits
  match x.fraction, x.exponent with
  | none, none =>
    if excess ≠ 0 then x.double? high excess
    else if x.negative = false then (WholeNumber.ofInt? high).map .whole
    else if 0 < high ∧ high ≤ Nat.pow 2 63 then (WholeNumber.ofInt? (-high)).map .whole
    else x.double? high 0
  | fraction, exponent =>
    let (all, scale) := trailing high excess (fraction.getD [])
    x.double? all (scale + exponent.getD 0)

end Numeral

end GatewayAdmission
