import PrimitiveSearch.Text.Basic

/-!
# Decimal numerals

Whole numbers as decimal text.

* `Numeral.ofNat`, `Numeral.ofInt` — the plain numeral of a number.
* `Numeral.value` — the number that a run of digits denotes.
* `Numeral.readBelow?` — a numeral with an optional plus sign that stays below a bound.
-/

set_option autoImplicit false

namespace PrimitiveSearch.Numeral

/-- The decimal digits of a number, most significant first. -/
def ofNat (n : Nat) : Text := Nat.toDigits 10 n

/-- A whole number in decimal, with a minus sign when it is negative. -/
def ofInt : Int → Text
  | .ofNat n => ofNat n
  | .negSucc n => '-' :: ofNat (n + 1)

/-- One of the ten ASCII digits. -/
def isDigit (c : Char) : Bool := 48 ≤ c.toNat && c.toNat ≤ 57

/-- The value of an ASCII digit. -/
def digit (c : Char) : Nat := c.toNat - 48

/-- The number that digits denote when they follow the digits of `start`. -/
def valueFrom (start : Nat) (t : Text) : Nat := t.foldl (fun n c => n * 10 + digit c) start

/-- The number that a run of digits denotes. -/
def value (t : Text) : Nat := valueFrom 0 t

/-- A numeral without its leading plus sign. -/
def unsigned : Text → Text
  | '+' :: rest => rest
  | t => t

/-- A non-empty run of ASCII digits, after an optional plus sign, that denotes a number below
`bound`. -/
def readBelow? (bound : Nat) (t : Text) : Option Nat :=
  let digits := unsigned t
  if digits.isEmpty || !digits.all isDigit then none
  else if value digits < bound then some (value digits) else none

end PrimitiveSearch.Numeral
