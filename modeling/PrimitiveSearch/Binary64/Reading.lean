import PrimitiveSearch.Binary64.Basic
import PrimitiveSearch.Text.Numeral

/-!
# Numbers from decimal text

* `Binary64.ofDecimal` — the number nearest to `digits * 10 ^ exponent`.
* `Binary64.read?` — an optional sign, then digits with at most one point and an optional power of
  ten, or one of the words `inf`, `infinity` and `nan` in any letter case.
-/

set_option autoImplicit false

namespace PrimitiveSearch.Binary64

/-- The number with a given sign that is nearest to `digits * 10 ^ exponent`.  Exponents far out of
range are settled without raising ten to them. -/
def ofDecimal (negative : Bool) (digits : Nat) (exponent : Int) : Binary64 :=
  if digits = 0 then zero negative
  else
    let magnitude := ((Nat.toDigits 10 digits).length : Int) + exponent
    if 310 < magnitude then .infinity negative
    else if magnitude < -330 then zero negative
    else match exponent with
      | .ofNat e => ofRatio negative (digits * 10 ^ e) 1
      | .negSucc e => ofRatio negative digits (10 ^ (e + 1))

/-- An ASCII letter in lower case; any other character as it is. -/
def lower (c : Char) : Char :=
  if 65 ≤ c.toNat && c.toNat ≤ 90 then Char.ofNat (c.toNat + 32) else c

/-- The sign in front of a numeral, and what follows it. -/
def cutSign : Text → Bool × Text
  | '-' :: rest => (true, rest)
  | '+' :: rest => (false, rest)
  | t => (false, t)

/-- The power of ten at the end of a numeral: zero if there is none. -/
def readPower? : Text → Option Int
  | [] => some 0
  | c :: rest =>
    if lower c = 'e' then
      let (negative, digits) := cutSign rest
      if digits.isEmpty || !digits.all Numeral.isDigit then none
      else
        let n := Numeral.value digits
        some (if negative then -(n : Int) else n)
    else none

/-- The digits after a point, and what follows them. -/
def cutFraction : Text → Text × Text
  | '.' :: rest => (rest.takeWhile Numeral.isDigit, rest.dropWhile Numeral.isDigit)
  | t => ([], t)

/-- An unsigned decimal with at least one digit. -/
def readMagnitude? (negative : Bool) (t : Text) : Option Binary64 :=
  let whole := t.takeWhile Numeral.isDigit
  let (fraction, rest) := cutFraction (t.dropWhile Numeral.isDigit)
  if whole.isEmpty && fraction.isEmpty then none
  else (readPower? rest).map fun power =>
    ofDecimal negative (Numeral.value (whole ++ fraction)) (power - (fraction.length : Int))

/-- The number that a text denotes, if it is a numeral. -/
def read? (t : Text) : Option Binary64 :=
  let (negative, rest) := cutSign t
  let word := rest.map lower
  if word = "inf".toList ∨ word = "infinity".toList then some (.infinity negative)
  else if word = "nan".toList then some .nan
  else readMagnitude? negative rest

end PrimitiveSearch.Binary64
