import PrimitiveSearch.Text.Printable

/-!
# Quoted texts

A text between double quotes, with everything escaped that a reader could not see or that would
end the quotation.
-/

set_option autoImplicit false

namespace PrimitiveSearch.Text

/-- A character as its hexadecimal code point in braces. -/
def codePoint (c : Char) : Text :=
  "\\u\x7b" ++ Nat.toDigits 16 c.toNat ++ "\x7d"

/-- One character inside quotes. -/
def quotedChar (c : Char) : Text :=
  if c = '\x00' then ['\\', '0']
  else if c = '\t' then ['\\', 't']
  else if c = '\r' then ['\\', 'r']
  else if c = '\n' then ['\\', 'n']
  else if c = '"' then ['\\', '"']
  else if c = '\\' then ['\\', '\\']
  else if extendsCluster c || !isPrintable c then codePoint c
  else [c]

/-- A text between double quotes. -/
def quoted (t : Text) : Text := '"' :: t.flatMap quotedChar ++ ['"']

end PrimitiveSearch.Text
