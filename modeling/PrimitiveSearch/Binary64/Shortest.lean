import PrimitiveSearch.Binary64.Basic

/-!
# Shortest decimals

The decimal that stands for a double-precision number: of all decimals that read back as the
number, those with the fewest digits, and of these the nearest.  A decimal reads back when it lies
in the interval between the midpoints to the two neighbours; the midpoints belong to it when the
significand is even.

* `Interval` — a value and its interval, over a common denominator.
* `Interval.shortest` — the digits and the place of the point.
-/

set_option autoImplicit false

namespace PrimitiveSearch.Binary64

/-- A positive decimal: `digits * 10 ^ exponent`. -/
structure Decimal where
  digits : Nat
  exponent : Int
  deriving DecidableEq, Repr

/-- A value with the numbers that round to it, all over one denominator. -/
structure Interval where
  low : Nat
  value : Nat
  high : Nat
  denominator : Nat
  closed : Bool

/-- The interval of a finite number other than zero. -/
def intervalOf (significand : Nat) (exponent : Int) : Interval :=
  let atPower := significand == 2 ^ (precision - 1) && minExponent < exponent
  let (scale, denominator) := ratio 1 (exponent - 2)
  { low := (4 * significand - (if atPower then 1 else 2)) * scale
    value := 4 * significand * scale
    high := (4 * significand + 2) * scale
    denominator := denominator
    closed := significand % 2 == 0 }

namespace Interval

/-- The number of decimal digits of a natural. -/
def digitCount (n : Nat) : Nat := (Nat.toDigits 10 n).length

/-- The power of ten next above the value: `10 ^ (k - 1) ≤ value < 10 ^ k`. -/
def magnitude (i : Interval) : Int :=
  if i.denominator ≤ i.value then (digitCount (i.value / i.denominator) : Int)
  else 1 - (digitCount ((i.denominator - 1) / i.value) : Int)

/-- Whether a fraction lies in the interval. -/
def contains (i : Interval) (num den : Nat) : Bool :=
  let point := num * i.denominator
  let low := i.low * den
  let high := i.high * den
  if i.closed then low ≤ point && point ≤ high else low < point && point < high

/-- A natural times a power of ten, as a fraction. -/
def gridPoint (n : Nat) (exponent : Int) : Nat × Nat :=
  match exponent with
  | .ofNat e => (n * 10 ^ e, 1)
  | .negSucc e => (n, 10 ^ (e + 1))

/-- The decimal nearest to the value on the grid `10 ^ exponent`, if one of the value's two
neighbours there lies in the interval.  Of two at the same distance the upper one is taken. -/
def onGrid? (i : Interval) (exponent : Int) : Option Decimal :=
  let (unit, den) := gridPoint 1 exponent
  let below := i.value * den / (i.denominator * unit)
  let above := below + 1
  let inside (n : Nat) : Bool := i.contains (n * unit) den
  let twice := 2 * (i.value * den)
  let middle := (2 * below + 1) * (i.denominator * unit)
  match inside below, inside above with
  | true, true => some ⟨if twice < middle then below else above, exponent⟩
  | true, false => some ⟨below, exponent⟩
  | false, true => some ⟨above, exponent⟩
  | false, false => none

/-- A decimal without zeros at the end of its digits; `fuel` bounds their number. -/
def normalise (d : Decimal) : (fuel : Nat) → Decimal
  | 0 => d
  | fuel + 1 =>
    if d.digits ≠ 0 ∧ d.digits % 10 = 0 then normalise ⟨d.digits / 10, d.exponent + 1⟩ fuel else d

/-- The first grid with a decimal in the interval, from `count` digits on. -/
def shortestFrom (i : Interval) (magnitude : Int) (count : Nat) : (fuel : Nat) → Decimal
  | 0 => ⟨i.value / i.denominator, 0⟩
  | fuel + 1 =>
    match i.onGrid? (magnitude - count) with
    | some d => normalise d 20
    | none => shortestFrom i magnitude (count + 1) fuel

/-- The shortest decimal in the interval.  Seventeen digits always suffice. -/
def shortest (i : Interval) : Decimal := i.shortestFrom i.magnitude 1 17

end Interval

/-- The shortest decimal that reads back as a finite number other than zero. -/
def shortestDecimal (significand : Nat) (exponent : Int) : Decimal :=
  (intervalOf significand exponent).shortest

end PrimitiveSearch.Binary64
