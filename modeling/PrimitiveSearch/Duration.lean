import PrimitiveSearch.Binary64.Notation

/-!
# Durations

A span of time in whole nanoseconds, and its two texts:

* `Duration.text` — the largest unit of s, ms, µs and ns that is reached, with the fraction that is
  needed.
* `Duration.seconds` — seconds with two places, by way of a double-precision number.
-/

set_option autoImplicit false

namespace PrimitiveSearch

/-- A span of time. -/
structure Duration where
  nanos : Nat
  deriving DecidableEq, Repr

namespace Duration

/-- No time at all. -/
def zero : Duration := ⟨0⟩

/-- The nanoseconds in a second. -/
def perSecond : Nat := 1000000000

/-- Whole seconds. -/
def ofSeconds (n : Nat) : Duration := ⟨n * perSecond⟩

/-- Whole milliseconds. -/
def ofMillis (n : Nat) : Duration := ⟨n * 1000000⟩

/-- The time from one reading of a clock to a later one. -/
def since (later earlier : Duration) : Duration := ⟨later.nanos - earlier.nanos⟩

/-- A count of units with the part of a unit that is left, of `unit` nanoseconds each. -/
def inUnit (d : Duration) (unit : Nat) (name : Text) : Text :=
  let places := (Nat.toDigits 10 unit).length - 1
  let part := Numeral.ofNat (d.nanos % unit)
  let padded := List.replicate (places - part.length) '0' ++ part
  let fraction := (padded.reverse.dropWhile (· == '0')).reverse
  Numeral.ofNat (d.nanos / unit) ++
    (if d.nanos % unit = 0 then [] else '.' :: fraction) ++ name

/-- A duration in the largest unit that it reaches. -/
def text (d : Duration) : Text :=
  if perSecond ≤ d.nanos then d.inUnit perSecond "s"
  else if 1000000 ≤ d.nanos then d.inUnit 1000000 "ms"
  else if 1000 ≤ d.nanos then d.inUnit 1000 "µs"
  else d.inUnit 1 "ns"

/-- A duration in seconds as a double-precision number: the whole seconds and the part of a second
are converted apart and then added. -/
def toBinary64 (d : Duration) : Binary64 :=
  Binary64.addMagnitude (Binary64.ofNat (d.nanos / perSecond))
    (Binary64.divide (Binary64.ofNat (d.nanos % perSecond)) (Binary64.ofNat perSecond))

/-- A duration in seconds with two places. -/
def seconds (d : Duration) : Text := Binary64.fixed 2 d.toBinary64

end Duration

end PrimitiveSearch
