import PrimitiveSearch.Binary64.Shortest
import PrimitiveSearch.Text.Numeral

/-!
# How numbers are written

A number is written by its shortest decimal, either with the point in its place or with a power of
ten.  What differs from one use to another is in a `Style`.

* `Style.text` — a number in a style.
* `Binary64.exactText` — the style of costs where they are read by a model or a person.
* `Binary64.plainText` — digits and a point only.
* `Binary64.jsonText` — the style of numbers quoted in faults of a document.
* `Binary64.fixed` — the exact value with a fixed number of places.
-/

set_option autoImplicit false

namespace PrimitiveSearch.Binary64

/-- The choices in writing a number. -/
structure Style where
  /-- The decimal exponents that are written with the point in its place. -/
  positional : Int → Bool
  /-- Whether a whole number ends in `.0`. -/
  keepsPoint : Bool
  /-- Whether a positive power of ten has a plus sign. -/
  plusSign : Bool

/-- Digits with the point after the first `magnitude` of them, zeros filled in. -/
def Style.point (s : Style) (digits : Text) (magnitude : Int) : Text :=
  let whole (t : Text) : Text := if s.keepsPoint then t ++ ".0" else t
  if magnitude ≤ 0 then "0." ++ List.replicate (-magnitude).toNat '0' ++ digits
  else
    let n := magnitude.toNat
    if digits.length ≤ n then whole (digits ++ List.replicate (n - digits.length) '0')
    else digits.take n ++ '.' :: digits.drop n

/-- Digits with the point after the first of them, times a power of ten. -/
def Style.power (s : Style) (digits : Text) (magnitude : Int) : Text :=
  let exponent := magnitude - 1
  let mantissa := match digits with
    | [] => []
    | [d] => [d]
    | d :: rest => d :: '.' :: rest
  mantissa ++ 'e' :: (if s.plusSign && 0 ≤ exponent then ['+'] else []) ++ Numeral.ofInt exponent

/-- The absolute value of a finite number in a style. -/
def Style.magnitudeText (s : Style) (significand : Nat) (exponent : Int) : Text :=
  if significand = 0 then (if s.keepsPoint then "0.0".toList else ['0'])
  else
    let d := shortestDecimal significand exponent
    let digits := Numeral.ofNat d.digits
    let magnitude := (digits.length : Int) + d.exponent
    if s.positional (magnitude - 1) then s.point digits magnitude else s.power digits magnitude

/-- A sign in front of a text. -/
def signed (negative : Bool) (t : Text) : Text := if negative then '-' :: t else t

/-- A number in a style. -/
def Style.text (s : Style) : Binary64 → Text
  | .nan => "NaN"
  | .infinity negative => signed negative "inf"
  | .finite negative significand exponent =>
    signed negative (s.magnitudeText significand exponent)

/-- Costs as they are told to a model or shown in a summary: positional from `1e-4` on and below
`1e16`, a whole number with `.0`. -/
def exactStyle : Style := ⟨fun e => -4 ≤ e && e < 16, true, false⟩

/-- Costs in a report: always positional, a whole number without a point. -/
def plainStyle : Style := ⟨fun _ => true, false, false⟩

/-- Numbers quoted from a document: positional from `1e-5` on and below `1e16`, a whole number with
`.0`, a positive power of ten with a plus sign. -/
def jsonStyle : Style := ⟨fun e => -5 ≤ e && e < 16, true, true⟩

/-- A cost as it is told to a model or shown in a summary. -/
def exactText (x : Binary64) : Text := exactStyle.text x

/-- A cost as it is shown in a report. -/
def plainText (x : Binary64) : Text := plainStyle.text x

/-- A number as it is quoted from a document. -/
def jsonText (x : Binary64) : Text := jsonStyle.text x

/-- The exact value of a number rounded to `places` decimal places; a half goes to the even
neighbour. -/
def fixed (places : Nat) : Binary64 → Text
  | .nan => "NaN"
  | .infinity negative => signed negative "inf"
  | .finite negative significand exponent =>
    let (num, den) := ratio significand exponent
    let digits := Numeral.ofNat (divideEven (num * 10 ^ places) den)
    let padded := List.replicate (places + 1 - digits.length) '0' ++ digits
    let whole := padded.length - places
    signed negative (padded.take whole ++ (if places = 0 then [] else '.' :: padded.drop whole))

end PrimitiveSearch.Binary64
