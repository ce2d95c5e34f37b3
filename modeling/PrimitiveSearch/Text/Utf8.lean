import PrimitiveSearch.Text.Basic

/-!
# Texts as bytes

The UTF-8 form of a text, and two ways back:

* `Text.bytes`, `Text.byteLength` — the bytes of a text and their number.
* `Text.ofBytes?` — the text that bytes denote, if they are well formed.
* `Text.ofBytesLossy` — the same with U+FFFD in the place of every maximal malformed part.

Both readers go by `decodeFirst`, which takes one character or one maximal malformed part off the
front.
-/

set_option autoImplicit false

namespace PrimitiveSearch.Text

/-- The number of bytes that a character takes. -/
def charWidth (c : Char) : Nat :=
  let n := c.toNat
  if n < 0x80 then 1 else if n < 0x800 then 2 else if n < 0x10000 then 3 else 4

/-- The number of bytes that a text takes. -/
def byteLength (t : Text) : Nat := t.foldl (fun n c => n + charWidth c) 0

/-- The bytes of a character. -/
def charBytes (c : Char) : List UInt8 :=
  let n := c.toNat
  let tail (shift : Nat) : UInt8 := UInt8.ofNat (0x80 + n / 2 ^ shift % 64)
  match charWidth c with
  | 1 => [UInt8.ofNat n]
  | 2 => [UInt8.ofNat (0xC0 + n / 2 ^ 6), tail 0]
  | 3 => [UInt8.ofNat (0xE0 + n / 2 ^ 12), tail 6, tail 0]
  | _ => [UInt8.ofNat (0xF0 + n / 2 ^ 18), tail 12, tail 6, tail 0]

/-- The bytes of a text. -/
def bytes (t : Text) : List UInt8 := t.flatMap charBytes

/-! ## Reading -/

/-- What a leading byte announces: how many bytes are to follow, the bits it carries, and the
range of the first of them. -/
structure Lead where
  owed : Nat
  bits : Nat
  low : Nat
  high : Nat

/-- The meaning of a byte at the start of a character, if it can stand there. -/
def Lead.of? (b : Nat) : Option Lead :=
  if b < 0x80 then some ⟨0, b, 0x80, 0xBF⟩
  else if b < 0xC2 then none
  else if b < 0xE0 then some ⟨1, b - 0xC0, 0x80, 0xBF⟩
  else if b = 0xE0 then some ⟨2, 0, 0xA0, 0xBF⟩
  else if b = 0xED then some ⟨2, b - 0xE0, 0x80, 0x9F⟩
  else if b < 0xF0 then some ⟨2, b - 0xE0, 0x80, 0xBF⟩
  else if b = 0xF0 then some ⟨3, 0, 0x90, 0xBF⟩
  else if b < 0xF4 then some ⟨3, b - 0xF0, 0x80, 0xBF⟩
  else if b = 0xF4 then some ⟨3, 4, 0x80, 0x8F⟩
  else none

/-- Following bytes: the code point they complete, or nothing when one is missing or out of
range; and the bytes that are left. -/
def decodeTail : (owed bits low high : Nat) → List UInt8 → Option Char × List UInt8
  | 0, bits, _, _, rest => (some (Char.ofNat bits), rest)
  | _ + 1, _, _, _, [] => (none, [])
  | owed + 1, bits, low, high, b :: rest =>
    if low ≤ b.toNat ∧ b.toNat ≤ high then
      decodeTail owed (bits * 64 + (b.toNat - 0x80)) 0x80 0xBF rest
    else (none, b :: rest)

/-- One character, or one maximal malformed part, off the front of some bytes. -/
def decodeFirst (b : UInt8) (rest : List UInt8) : Option Char × List UInt8 :=
  match Lead.of? b.toNat with
  | none => (none, rest)
  | some lead => decodeTail lead.owed lead.bits lead.low lead.high rest

theorem length_decodeTail_le (owed bits low high : Nat) (bs : List UInt8) :
    (decodeTail owed bits low high bs).2.length ≤ bs.length := by
  induction owed generalizing bits low high bs with
  | zero => simp [decodeTail]
  | succ n ih =>
    cases bs with
    | nil => simp [decodeTail]
    | cons b rest =>
      unfold decodeTail
      split
      · exact Nat.le_succ_of_le (ih _ _ _ _)
      · simp

theorem length_decodeFirst_le (b : UInt8) (rest : List UInt8) :
    (decodeFirst b rest).2.length ≤ rest.length := by
  unfold decodeFirst
  split
  · exact Nat.le_refl _
  · exact length_decodeTail_le _ _ _ _ _

/-- The characters of some bytes in order, with nothing in the place of each malformed part. -/
def decode : List UInt8 → List (Option Char)
  | [] => []
  | b :: rest => (decodeFirst b rest).1 :: decode (decodeFirst b rest).2
  termination_by bs => bs.length
  decreasing_by
    have := length_decodeFirst_le b rest
    simp only [List.length_cons]
    omega

/-- The text that bytes denote, if every part of them is well formed. -/
def ofBytes? (bs : List UInt8) : Option Text := (decode bs).mapM id

/-- The text that bytes denote, with U+FFFD in the place of every malformed part. -/
def ofBytesLossy (bs : List UInt8) : Text := (decode bs).map (·.getD '\uFFFD')

end PrimitiveSearch.Text
