import GatewayAdmission.Decimal.Double

/-!
# The shortest decimal that reads back

`Double.shortest` gives a positive double as `digits * 10 ^ scale` with the fewest digits among
the decimals that round to it; of several with that many digits it gives the nearest.

A double stands for the interval of reals that round to it. For 1, 2, … 17 digits the two
neighbours of the value on the decimal grid of that many digits are tested against the interval,
and the first grid with a hit decides. `DecimalLayout` then says how such digits are written.
-/

namespace GatewayAdmission

/-- The number `digits * 10 ^ scale`. -/
structure Decimal where
  digits : Nat
  scale : Int
deriving DecidableEq

namespace Double

/-- Whether `x / y` lies strictly between the midpoints to both neighbours of `d`, or on one of
them if the mantissa is even. The unit is a quarter of the last place of `d`. -/
def rounds (d : Double) (x y : Nat) : Bool :=
  let up := Nat.pow 2 (d.exponent - 1076)
  let down := Nat.pow 2 (1076 - d.exponent)
  let gap := if d.mantissa = Nat.pow 2 52 ∧ d.exponent ≠ 0 then 1 else 2
  let low := (4 * d.mantissa - gap) * up * y
  let high := (4 * d.mantissa + 2) * up * y
  let value := x * down
  if d.mantissa % 2 = 0 then low ≤ value && value ≤ high else low < value && value < high

/-- The `k` with `10 ^ k ≤ d < 10 ^ (k + 1)`, for a positive double. -/
def magnitude (d : Double) : Int :=
  let (num, den) := d.ratio
  if den ≤ num then (Nat.toDigits 10 (num / den)).length - 1
  else -((Nat.toDigits 10 ((den - 1) / num)).length : Int)

/-- The neighbour of the value on the grid of `n` digits that reads back as `d`, the nearer one if
both do; an exact tie goes to the even one. -/
def onGrid? (d : Double) (n : Nat) : Option Decimal :=
  let k := d.magnitude + 1 - n
  let (num, den) := d.ratio
  let num := if k < 0 then num * Nat.pow 10 k.natAbs else num
  let den := if k < 0 then den else den * Nat.pow 10 k.natAbs
  let reads (m : Nat) : Bool :=
    if k < 0 then d.rounds m (Nat.pow 10 k.natAbs) else d.rounds (m * Nat.pow 10 k.natAbs) 1
  let near := roundDiv num den
  let other := if near = num / den then near + 1 else num / den
  -- The upper neighbour may be the next power of ten, which has one digit more.
  let take (m : Nat) : Decimal := if m = Nat.pow 10 n then ⟨Nat.pow 10 (n - 1), k + 1⟩ else ⟨m, k⟩
  if reads near then some (take near) else if reads other then some (take other) else none

/-- The first grid of at most 17 digits that holds a decimal which reads back. -/
def shortest (d : Double) : Decimal :=
  ((List.range 17).findSome? fun n => d.onGrid? (n + 1)).getD ⟨0, 0⟩

end Double

/-- How the digits of a number are laid out. -/
structure DecimalLayout where
  /-- Numbers from `10 ^ smallest` on are written without an exponent. -/
  smallest : Int
  /-- Numbers below `10 ^ largest` are written without an exponent. -/
  largest : Int
  /-- What an integral value written without an exponent ends in. -/
  integralEnd : String
  exponentMark : String
  /-- Whether an exponent that is not negative has a plus sign. -/
  plusSign : Bool

namespace DecimalLayout

/-- The power of ten after the digits: mark, sign and digits. -/
def exponent (layout : DecimalLayout) (e : Int) : String :=
  let sign := if e < 0 then "-" else if layout.plusSign then "+" else ""
  layout.exponentMark ++ sign ++ String.ofList (Nat.toDigits 10 e.natAbs)

/-- The text of `digits * 10 ^ scale`, the digits having no trailing zero. -/
def positive (layout : DecimalLayout) (x : Decimal) : String :=
  let ds := Nat.toDigits 10 x.digits
  let point : Int := ds.length + x.scale
  if layout.smallest < point ∧ point ≤ layout.largest then
    if 0 ≤ x.scale then
      String.ofList (ds ++ List.replicate x.scale.toNat '0') ++ layout.integralEnd
    else if 0 < point then
      String.ofList (ds.take point.toNat ++ '.' :: ds.drop point.toNat)
    else
      "0." ++ String.ofList (List.replicate (-point).toNat '0' ++ ds)
  else
    let fraction := if ds.length ≤ 1 then [] else '.' :: ds.drop 1
    String.ofList (ds.take 1 ++ fraction) ++ layout.exponent (point - 1)

/-- The text of a double: its shortest decimal in this layout, after its sign. -/
def text (layout : DecimalLayout) (d : Double) : String :=
  let body := if d.isZero then "0" ++ layout.integralEnd else layout.positive d.shortest
  if d.negative then "-" ++ body else body

end DecimalLayout

end GatewayAdmission
