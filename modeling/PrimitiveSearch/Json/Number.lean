import PrimitiveSearch.Json.Fault

/-!
# Numbers of a document

A number is a whole number as long as it has neither point nor power and fits 64 bits; otherwise
it is a double-precision number.  That one is found from a significand of at most 64 bits, of which
digits beyond are cut off, and one multiplication by, or division through, a power of ten.

* `Json.number` — a number after its minus sign, if it has one.
* `Json.skipNumber` — the same without its value.
-/

set_option autoImplicit false

namespace PrimitiveSearch.Json

/-- A number: whole, or of double precision. -/
inductive Number where
  | integer (value : Int)
  | real (value : Binary64)
  deriving DecidableEq, Repr

/-- Significands stay below this bound. -/
def significandBound : Nat := 2 ^ 64

/-- Digits appended to a significand as long as it fits; also how many were appended. -/
def append (significand : Nat) : Text → Nat × Nat
  | [] => (significand, 0)
  | c :: rest =>
    let next := significand * 10 + Numeral.digit c
    if next < significandBound then
      let (final, used) := append next rest
      (final, used + 1)
    else (significand, 0)

/-! ## Powers of ten -/

/-- The greatest power of ten that is a finite number. -/
def greatestPower : Nat := 308

/-- A power of ten as a number. -/
def tenTo (n : Nat) : Binary64 := Binary64.ofNat (10 ^ n)

/-- A number times or divided by a power of ten that is in range. -/
def scaled (x : Binary64) : Int → Binary64
  | .ofNat e => Binary64.multiply x (tenTo e)
  | .negSucc e => Binary64.divide x (tenTo (e + 1))

/-- The number `significand * 10 ^ exponent`; none when it is beyond every finite number.  Below
the range of powers the number is divided twice, and far below it is zero. -/
def fromParts (significand : Nat) (exponent : Int) : Option Binary64 :=
  let x := Binary64.ofNat significand
  if (greatestPower : Int) < exponent then (if x.isZero then some x else none)
  else if -(greatestPower : Int) ≤ exponent then
    match scaled x exponent with
    | .infinity _ => none
    | y => some y
  else if x.isZero then some x
  else
    let y := Binary64.divide x (tenTo greatestPower)
    let rest := exponent + greatestPower
    if -(greatestPower : Int) ≤ rest then some (scaled y rest) else some (Binary64.zero false)

/-- A double-precision number with its sign, ending in front of the given rest. -/
def real (positive : Bool) (significand : Nat) (exponent : Int) (rest : Text) :
    Except Fault (Number × Text) :=
  match fromParts significand exponent with
  | none => failAt .numberOutOfRange rest
  | some x => .ok (.real (if positive then x else x.negate), rest)

/-! ## Reading -/

/-- The digits at the front of a text. -/
def digitsOf (t : Text) : Text := t.takeWhile Numeral.isDigit

/-- A text without the digits at its front. -/
def pastDigits (t : Text) : Text := t.dropWhile Numeral.isDigit

/-- The bound that the digits of a power stay below. -/
def powerBound : Nat := 2 ^ 31

/-- The digits up to and with the first that takes a power out of bounds, if there is one. -/
def overflowAt? (power : Nat) : Text → Option Nat
  | [] => none
  | c :: rest =>
    let next := power * 10 + Numeral.digit c
    if next < powerBound then (overflowAt? next rest).map (· + 1) else some 1

/-- A number from the sign of its power on. -/
def power (positive : Bool) (significand : Nat) (exponent : Int) (t : Text) :
    Except Fault (Number × Text) :=
  let (raises, body) := match t with
    | '+' :: rest => (true, rest)
    | '-' :: rest => (false, rest)
    | rest => (true, rest)
  match body with
  | [] => failAt .endInValue []
  | c :: _ =>
    if !Numeral.isDigit c then failPast .invalidNumber body
    else
      let digits := digitsOf body
      match overflowAt? 0 digits with
      | some count =>
        if significand ≠ 0 ∧ raises then failAt .numberOutOfRange (body.drop count)
        else .ok (.real (Binary64.zero (!positive)), pastDigits body)
      | none =>
        let n : Int := Numeral.value digits
        real positive significand (if raises then exponent + n else exponent - n) (pastDigits body)

/-- A number from behind its point on. -/
def fraction (positive : Bool) (significand : Nat) (exponent : Int) (t : Text) :
    Except Fault (Number × Text) :=
  let digits := digitsOf t
  let rest := pastDigits t
  if digits.isEmpty then
    match t with
    | [] => failAt .endInValue []
    | _ => failPast .invalidNumber t
  else
    let (final, used) := append significand digits
    match rest with
    | 'e' :: after => power positive final (exponent - used) after
    | 'E' :: after => power positive final (exponent - used) after
    | _ => real positive final (exponent - used) rest

/-- A whole number with its sign.  Zero with a minus sign is not whole, nor is what 64 bits cannot
hold. -/
def whole (positive : Bool) (significand : Nat) : Number :=
  if positive then .integer significand
  else if significand = 0 ∨ 2 ^ 63 < significand then .real (Binary64.ofNat significand).negate
  else .integer (-(significand : Int))

/-- A number from behind its whole part on.  `cut` digits did not fit into the significand. -/
def afterWhole (positive : Bool) (significand cut : Nat) (t : Text) :
    Except Fault (Number × Text) :=
  match t with
  | '.' :: rest => fraction positive significand cut rest
  | 'e' :: rest => power positive significand cut rest
  | 'E' :: rest => power positive significand cut rest
  | _ =>
    if cut = 0 then .ok (whole positive significand, t)
    else real positive significand cut t

/-- A number after its sign. -/
def number (positive : Bool) : Reader Number
  | [] => failAt .endInValue []
  | c :: rest =>
    if c = '0' then
      if (digitsOf rest).isEmpty then afterWhole positive 0 0 rest
      else failPast .invalidNumber rest
    else if Numeral.isDigit c then
      let digits := digitsOf (c :: rest)
      let (significand, used) := append 0 digits
      afterWhole positive significand (digits.length - used) (pastDigits (c :: rest))
    else failPast .invalidNumber (c :: rest)

/-! ## Skipping -/

/-- What follows a power whose value does not matter, from its sign on. -/
def skipPower (t : Text) : Except Fault Text :=
  let body := match t with
    | '+' :: rest => rest
    | '-' :: rest => rest
    | rest => rest
  if (digitsOf body).isEmpty then failPast .invalidNumber body else .ok (pastDigits body)

/-- What follows the power of a number, if it has one. -/
def skipPowerIfAny : Text → Except Fault Text
  | 'e' :: rest => skipPower rest
  | 'E' :: rest => skipPower rest
  | t => .ok t

/-- What follows a number whose value does not matter, from behind its whole part on. -/
def skipAfterWhole : Text → Except Fault Text
  | '.' :: rest =>
    if (digitsOf rest).isEmpty then failPast .invalidNumber rest
    else skipPowerIfAny (pastDigits rest)
  | t => skipPowerIfAny t

/-- What follows a number whose value does not matter, after its sign. -/
def skipNumber : Text → Except Fault Text
  | [] => failPast .invalidNumber []
  | c :: rest =>
    if c = '0' then
      if (digitsOf rest).isEmpty then skipAfterWhole rest else failPast .invalidNumber rest
    else if Numeral.isDigit c then skipAfterWhole (pastDigits rest)
    else failPast .invalidNumber (c :: rest)

end PrimitiveSearch.Json
