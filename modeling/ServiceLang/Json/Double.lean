import ServiceLang.Text.Number

namespace ServiceLang.Double

/-!
# Floating-point numbers in decimal

Binary64 numbers are handled as their bits.

* `ofDecimal?`: the number read for `± significand · 10 ^ exponent`, or none when it is too
  large;
* `shortest?`: the fewest decimal digits that read back as the number, the nearest such decimal
  first, an exact tie going to the even digit;
* `render`: those digits, positional between `10 ^ -5` and `10 ^ 16`, and always with a point or
  an exponent; the exponent has its sign.
-/

/-! ### Reading -/

/-- The power of ten `10 ^ e` for `e ≤ 308`. -/
def pow10 (e : Nat) : Float := Float.ofScientific 1 false e

/-- `f / 10 ^ n`, divided in steps of at most `10 ^ 308`. -/
def divPow10 (f : Float) (n : Nat) : Float :=
  if n ≤ 308 then f / pow10 n
  else if f == 0 then f
  else divPow10 (f / pow10 308) (n - 308)
termination_by n

/-- `f · 10 ^ n`, or none when that is too large. -/
def mulPow10? (f : Float) (n : Nat) : Option Float :=
  if n ≤ 308 then
    let product := f * pow10 n
    if product.isInf then none else some product
  else if f == 0 then some f
  else none

/-- The bits of `± significand · 10 ^ exponent`, or none when that is too large. -/
def ofDecimal? (negative : Bool) (significand : Nat) (exponent : Int) : Option UInt64 :=
  let f := (UInt64.ofNat significand).toFloat
  let scaled := if exponent < 0 then some (divPow10 f exponent.natAbs)
    else mulPow10? f exponent.natAbs
  scaled.map fun g => (if negative then -g else g).toBits

/-! ### Writing -/

/-- The parts of a finite number other than zero: its value is `mantissa · 2 ^ exponent`, and
    `narrow` tells that the next smaller number is only half as far away as the next larger. -/
structure Parts where
  mantissa : Nat
  exponent : Int
  narrow : Bool
  deriving DecidableEq, Repr

/-- The parts of a number, without its sign. -/
def parts (bits : UInt64) : Parts :=
  let fraction : Nat := bits.toNat % Nat.pow 2 52
  let exponent : Nat := bits.toNat / Nat.pow 2 52 % Nat.pow 2 11
  if exponent = 0 then ⟨fraction, -1074, false⟩
  else ⟨Nat.pow 2 52 + fraction, Int.ofNat exponent - 1075, fraction == 0 && 1 < exponent⟩

/-- The numbers that read back as a given one: the value and both ends of their interval, as
    fractions over a common denominator. The ends belong to it when `closed`. -/
structure Interval where
  low : Nat
  value : Nat
  high : Nat
  denominator : Nat
  closed : Bool
  deriving DecidableEq, Repr

/-- The interval of the decimals that read back as a number. -/
def interval (p : Parts) : Interval :=
  let exponent := p.exponent - 2
  let unit := if exponent < 0 then 1 else Nat.pow 2 exponent.natAbs
  { low := (4 * p.mantissa - if p.narrow then 1 else 2) * unit
    value := 4 * p.mantissa * unit
    high := (4 * p.mantissa + 2) * unit
    denominator := if exponent < 0 then Nat.pow 2 exponent.natAbs else 1
    closed := p.mantissa % 2 == 0 }

/-- Whether the fraction with numerator `n` over the interval's denominator reads back. -/
def Interval.holds (i : Interval) (n : Nat) : Bool :=
  if i.closed then i.low ≤ n && n ≤ i.high else i.low < n && n < i.high

/-- The decimal `digits · 10 ^ k` that reads back and lies nearest, for a fixed `k`. -/
def Interval.onGrid? (i : Interval) (k : Int) : Option Nat :=
  let up := if k < 0 then Nat.pow 10 k.natAbs else 1
  let i := { i with low := i.low * up, value := i.value * up, high := i.high * up }
  let step := (if k < 0 then 1 else Nat.pow 10 k.natAbs) * i.denominator
  let below := i.value / step
  let above := below + 1
  let down := i.value - below * step
  let rise := above * step - i.value
  match i.holds (below * step), i.holds (above * step) with
  | true, true =>
    if down < rise || (down == rise && below % 2 == 0) then some below else some above
  | true, false => some below
  | false, true => some above
  | false, false => none

/-- The fewest digits that read back, and the power of ten of the last one. -/
def shortest? (bits : UInt64) : Option (Nat × Int) :=
  let i := interval (parts bits)
  (List.range 640).findSome? fun n =>
    let k : Int := 309 - Int.ofNat n
    (i.onGrid? k).map (·, k)

/-- Digits and the power of ten of the last one, written out. -/
def layout (ds : List Char) (k : Int) : List Char :=
  let point := (ds.length : Int) + k
  if 0 ≤ k ∧ point ≤ 16 then ds ++ List.replicate k.natAbs '0' ++ ['.', '0']
  else if 0 < point ∧ point ≤ 16 then ds.take point.natAbs ++ '.' :: ds.drop point.natAbs
  else if -5 < point ∧ point ≤ 0 then ['0', '.'] ++ List.replicate point.natAbs '0' ++ ds
  else
    let exponent := (if 0 < point then ['+'] else []) ++ Text.intDigits (point - 1)
    match ds with
    | [d] => d :: 'e' :: exponent
    | d :: more => d :: '.' :: more ++ 'e' :: exponent
    | [] => []

/-- A finite number in decimal. -/
def render (bits : UInt64) : List Char :=
  let sign := if bits.toNat / Nat.pow 2 63 = 1 then ['-'] else []
  let text :=
    if bits.toNat % Nat.pow 2 63 = 0 then ['0', '.', '0']
    else match shortest? bits with
      | some (n, k) => layout (Text.digits n) k
      | none => []
  sign ++ text

end ServiceLang.Double
