import PrimitiveSearch.Text.Basic

/-!
# Double-precision numbers

The numbers of the 64-bit binary format, each as its exact value.

* `Binary64` — not a number, an infinity, or a signed significand times a power of two.
* `Binary64.ofRatio` — the number nearest to a fraction; of two equally near the even one.
* `Binary64.isZero` — the comparison with zero, which both zeros pass.

All arithmetic is on natural numbers.
-/

set_option autoImplicit false

namespace PrimitiveSearch

/-- A double-precision number.  A finite one is `significand * 2 ^ exponent`, with a significand
below `2 ^ 53` and the exponent between -1074 and 971. -/
inductive Binary64 where
  /-- Not a number. -/
  | nan
  /-- An infinity. -/
  | infinity (negative : Bool)
  /-- A finite number; zero has a sign, too. -/
  | finite (negative : Bool) (significand : Nat) (exponent : Int)
  deriving DecidableEq, Repr, Inhabited

namespace Binary64

/-- The least exponent of a finite number. -/
def minExponent : Int := -1074

/-- The greatest exponent of a finite number. -/
def maxExponent : Int := 971

/-- The number of binary digits of a significand. -/
def precision : Nat := 53

/-- The zero with a given sign. -/
def zero (negative : Bool) : Binary64 := .finite negative 0 minExponent

/-- Whether a number equals zero; not-a-number does not. -/
def isZero : Binary64 → Bool
  | .finite _ significand _ => significand == 0
  | _ => false

/-- The number with the opposite sign. -/
def negate : Binary64 → Binary64
  | .nan => .nan
  | .infinity negative => .infinity (!negative)
  | .finite negative significand exponent => .finite (!negative) significand exponent

/-- The quotient of two naturals rounded to the nearest natural; a half goes to the even one. -/
def divideEven (num den : Nat) : Nat :=
  let q := num / den
  let r := num % den
  if 2 * r < den then q
  else if den < 2 * r then q + 1
  else q + q % 2

/-- A fraction divided by a power of two, as a fraction. -/
def scaleDown (num den : Nat) (exponent : Int) : Nat × Nat :=
  match exponent with
  | .ofNat e => (num, den * 2 ^ e)
  | .negSucc e => (num * 2 ^ (e + 1), den)

/-- The exponent under which a fraction has a significand of full precision, but no less than
the least exponent. -/
def exponentOf (num den : Nat) : Int :=
  let low : Int := (Nat.log2 num : Int) - (Nat.log2 den : Int) - (precision : Int)
  let (a, b) := scaleDown num den low
  let fitting := if a / b < 2 ^ precision then low else low + 1
  max fitting minExponent

/-- The number with a given sign that is nearest to the fraction `num / den`. -/
def ofRatio (negative : Bool) (num den : Nat) : Binary64 :=
  if num = 0 then zero negative
  else
    let exponent := exponentOf num den
    let (a, b) := scaleDown num den exponent
    let significand := divideEven a b
    let (significand, exponent) :=
      if significand = 2 ^ precision then (2 ^ (precision - 1), exponent + 1)
      else (significand, exponent)
    if maxExponent < exponent then .infinity negative
    else .finite negative significand exponent

/-- The number nearest to a natural. -/
def ofNat (n : Nat) : Binary64 := ofRatio false n 1

/-- The exact absolute value of a finite number as a fraction. -/
def ratio (significand : Nat) (exponent : Int) : Nat × Nat :=
  match exponent with
  | .ofNat e => (significand * 2 ^ e, 1)
  | .negSucc e => (significand, 2 ^ (e + 1))

/-- A finite number plus another of the same sign; what is not finite stands. -/
def addMagnitude : Binary64 → Binary64 → Binary64
  | .finite negative m e, .finite _ n f =>
    let (a, b) := ratio m e
    let (c, d) := ratio n f
    ofRatio negative (a * d + c * b) (b * d)
  | .finite _ _ _, y => y
  | x, _ => x

/-- A finite number times another; what is not finite stands. -/
def multiply : Binary64 → Binary64 → Binary64
  | .finite s m e, .finite t n f =>
    let (a, b) := ratio m e
    let (c, d) := ratio n f
    ofRatio (s != t) (a * c) (b * d)
  | .finite _ _ _, y => y
  | x, _ => x

/-- A finite number divided by another, which is not zero; what is not finite stands. -/
def divide : Binary64 → Binary64 → Binary64
  | .finite s m e, .finite t n f =>
    let (a, b) := ratio m e
    let (c, d) := ratio n f
    ofRatio (s != t) (a * d) (b * c)
  | .finite _ _ _, y => y
  | x, _ => x

end Binary64

end PrimitiveSearch
