import PrimitiveSearch.Binary64.Notation
import PrimitiveSearch.Text.Quoted
import PrimitiveSearch.Text.Utf8

/-!
# What can be wrong with a document

A document is refused at its first fault.  A fault is a cause and a place; the place is counted in
lines and bytes.

* `Json.Cause` — the causes, with `Cause.kind` and `Cause.message`.
* `Json.Position` — the place after a number of bytes of a text.
* `Json.Fault` — a cause and the number of bytes that were not read.
* `Json.Located` — a cause and its place in the whole document.
-/

set_option autoImplicit false

namespace PrimitiveSearch.Json

/-! ## Causes -/

/-- What stands where something else was expected. -/
inductive Found where
  | null
  | boolean (value : Bool)
  | integer (value : Int)
  | real (value : Binary64)
  | string (value : Text)
  | sequence
  | map
  deriving DecidableEq, Repr

/-- The words for what was found. -/
def Found.message : Found → Text
  | .null => "null"
  | .boolean value => "boolean `" ++ (if value then "true".toList else "false".toList) ++ ['`']
  | .integer value => "integer `" ++ Numeral.ofInt value ++ ['`']
  | .real value => "floating point `" ++ Binary64.jsonText value ++ ['`']
  | .string value => "string " ++ Text.quoted value
  | .sequence => "sequence"
  | .map => "map"

/-- Why a document is refused. -/
inductive Cause where
  /-- The document ends where a value should stand. -/
  | endInValue
  /-- The document ends inside an object. -/
  | endInObject
  /-- The document ends inside a list. -/
  | endInList
  /-- The document ends inside a string. -/
  | endInString
  /-- No value starts here. -/
  | expectedValue
  /-- A member of an object starts with something else than a string. -/
  | keyNotString
  /-- No colon follows a key. -/
  | expectedColon
  /-- Neither a comma nor a closing brace follows a member. -/
  | expectedObjectEnd
  /-- Neither a comma nor a closing bracket follows an element. -/
  | expectedListEnd
  /-- A bracket or brace follows a comma. -/
  | trailingComma
  /-- Something follows the end. -/
  | trailingCharacters
  /-- A number is not completed. -/
  | invalidNumber
  /-- A number is beyond every finite number. -/
  | numberOutOfRange
  /-- A literal is misspelt. -/
  | expectedLiteral
  /-- No escape starts like this. -/
  | invalidEscape
  /-- A control character stands in a string. -/
  | controlCharacter
  /-- Half of a surrogate pair stands alone. -/
  | loneSurrogate
  /-- The second half of a surrogate pair is missing. -/
  | endOfHexEscape
  /-- A value is of another type than expected. -/
  | wrongType (found : Found) (expected : Text)
  /-- A whole number is out of range. -/
  | outOfRange (value : Int) (expected : Text)
  /-- A field is not given. -/
  | missingField (name : Text)
  /-- A field is given twice. -/
  | duplicateField (name : Text)
  /-- A field is given that does not exist. -/
  | unknownField (name : Text) (fields : List Text)
  /-- A record in list form has too few elements. -/
  | tooShort (length : Nat) (expected : Text)
  deriving DecidableEq, Repr

/-- The kinds of causes. -/
inductive Kind where
  /-- The text is no document. -/
  | malformed
  /-- The document does not have the expected form. -/
  | mismatch
  /-- The text ends too early. -/
  | unfinished
  deriving DecidableEq, Repr

/-- The kind of a cause. -/
def Cause.kind : Cause → Kind
  | .endInValue | .endInObject | .endInList | .endInString => .unfinished
  | .wrongType .. | .outOfRange .. | .missingField .. | .duplicateField ..
  | .unknownField .. | .tooShort .. => .mismatch
  | _ => .malformed

/-- A name between backquotes. -/
def backquoted (name : Text) : Text := '`' :: name ++ ['`']

/-- The fields that could have been meant. -/
def alternatives : List Text → Text
  | [] => "there are no fields"
  | [a] => "expected " ++ backquoted a
  | [a, b] => "expected " ++ backquoted a ++ " or " ++ backquoted b
  | names => "expected one of " ++ List.intercalate ", ".toList (names.map backquoted)

/-- The words for a cause. -/
def Cause.message : Cause → Text
  | .endInValue => "EOF while parsing a value"
  | .endInObject => "EOF while parsing an object"
  | .endInList => "EOF while parsing a list"
  | .endInString => "EOF while parsing a string"
  | .expectedValue => "expected value"
  | .keyNotString => "key must be a string"
  | .expectedColon => "expected `:`"
  | .expectedObjectEnd => "expected `,` or `\x7d`"
  | .expectedListEnd => "expected `,` or `]`"
  | .trailingComma => "trailing comma"
  | .trailingCharacters => "trailing characters"
  | .invalidNumber => "invalid number"
  | .numberOutOfRange => "number out of range"
  | .expectedLiteral => "expected ident"
  | .invalidEscape => "invalid escape"
  | .controlCharacter => "control character (\\u0000-\\u001F) found while parsing a string"
  | .loneSurrogate => "lone leading surrogate in hex escape"
  | .endOfHexEscape => "unexpected end of hex escape"
  | .wrongType found expected => "invalid type: " ++ found.message ++ ", expected " ++ expected
  | .outOfRange value expected =>
    "invalid value: " ++ (Found.integer value).message ++ ", expected " ++ expected
  | .missingField name => "missing field " ++ backquoted name
  | .duplicateField name => "duplicate field " ++ backquoted name
  | .unknownField name fields => "unknown field " ++ backquoted name ++ ", " ++ alternatives fields
  | .tooShort length expected =>
    "invalid length " ++ Numeral.ofNat length ++ ", expected " ++ expected

/-! ## Places -/

/-- A line, counted from one, and the bytes before the place on it. -/
structure Position where
  line : Nat
  column : Nat
  deriving DecidableEq, Repr

/-- The place that is a number of bytes behind a given one.  A place inside a character counts
those of its bytes that are before it. -/
def Position.advance (p : Position) : Text → Nat → Position
  | [], _ => p
  | c :: rest, bytes =>
    if bytes = 0 then p
    else if c = '\n' then advance ⟨p.line + 1, 0⟩ rest (bytes - 1)
    else if bytes < Text.charWidth c then ⟨p.line, p.column + bytes⟩
    else advance ⟨p.line, p.column + Text.charWidth c⟩ rest (bytes - Text.charWidth c)

/-- A cause, and how many bytes of the document lie behind its place. -/
structure Fault where
  cause : Cause
  remaining : Nat
  deriving DecidableEq, Repr

/-- A cause and its place. -/
structure Located where
  cause : Cause
  position : Position
  deriving DecidableEq, Repr

/-- A fault seen in the whole document. -/
def Fault.locate (f : Fault) (document : Text) : Located :=
  ⟨f.cause, Position.advance ⟨1, 0⟩ document (Text.byteLength document - f.remaining)⟩

/-- The words for a fault and its place. -/
def Located.message (f : Located) : Text :=
  f.cause.message ++ " at line " ++ Numeral.ofNat f.position.line ++ " column " ++
    Numeral.ofNat f.position.column

/-- A reader takes a value off the front of a text. -/
abbrev Reader (α : Type) := Text → Except Fault (α × Text)

/-- A fault in front of the given rest. -/
def failAt {α : Type} (cause : Cause) (rest : Text) : Except Fault α :=
  .error ⟨cause, Text.byteLength rest⟩

/-- A fault behind the first byte of the given rest. -/
def failPast {α : Type} (cause : Cause) (rest : Text) : Except Fault α :=
  .error ⟨cause, Text.byteLength rest - 1⟩

end PrimitiveSearch.Json
