import PrimitiveSearch.Text.Numeral

/-!
# Writing documents

The parts of a compact document, without white space between them.
-/

set_option autoImplicit false

namespace PrimitiveSearch.Json

/-- One character inside a string: the quote, the backslash and control characters are escaped. -/
def stringChar (c : Char) : Text :=
  if c = '"' then ['\\', '"']
  else if c = '\\' then ['\\', '\\']
  else if c = '\n' then ['\\', 'n']
  else if c = '\r' then ['\\', 'r']
  else if c = '\t' then ['\\', 't']
  else if c = '\x08' then ['\\', 'b']
  else if c = '\x0c' then ['\\', 'f']
  else if c.toNat < 32 then
    ['\\', 'u', '0', '0', Nat.digitChar (c.toNat / 16), Nat.digitChar (c.toNat % 16)]
  else [c]

/-- A string. -/
def stringText (t : Text) : Text := '"' :: t.flatMap stringChar ++ ['"']

/-- A list of values that are written already. -/
def listText (items : List Text) : Text := '[' :: List.intercalate [','] items ++ [']']

/-- A key and a value that is written already. -/
def memberText (key value : Text) : Text := stringText key ++ ':' :: value

/-- An object of values that are written already. -/
def objectText (members : List (Text × Text)) : Text :=
  '{' :: List.intercalate [','] (members.map fun (key, value) => memberText key value) ++ ['}']

/-- A value, or `null` for nothing. -/
def optionalText {α : Type} (write : α → Text) : Option α → Text
  | none => "null"
  | some a => write a

end PrimitiveSearch.Json
