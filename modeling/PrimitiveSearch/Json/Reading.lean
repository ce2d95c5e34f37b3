import PrimitiveSearch.Json.Skip

/-!
# Reading typed values

Readers for values of a known type, put together from readers for their parts.

* `Json.integer`, `Json.string`, `Json.optional`, `Json.list` — the simple types.
* `Json.Field`, `Json.record` — records, as objects or as lists of their fields in order.
* `Json.read` — a whole document.
-/

set_option autoImplicit false

namespace PrimitiveSearch.Json

/-! ## Simple types -/

/-- The fault of a value that is not of the expected type. -/
def mismatch {α : Type} (expected : Text) (t : Text) : Except Fault α :=
  let wrong (found : Found) (rest : Text) : Except Fault α :=
    failAt (.wrongType found expected) rest
  let ofNumber : Number × Text → Except Fault α
    | (.integer n, rest) => wrong (.integer n) rest
    | (.real x, rest) => wrong (.real x) rest
  match t with
  | [] => failAt .endInValue []
  | c :: rest =>
    if c = 'n' then (literal "ull" rest).bind (wrong .null)
    else if c = 't' then (literal "rue" rest).bind (wrong (.boolean true))
    else if c = 'f' then (literal "alse" rest).bind (wrong (.boolean false))
    else if c = '-' then (number false rest).bind ofNumber
    else if Numeral.isDigit c then (number true t).bind ofNumber
    else if c = '"' then (stringBody rest).bind fun (s, after) => wrong (.string s) after
    else if c = '[' then wrong .sequence t
    else if c = '{' then wrong .map t
    else failPast .expectedValue t

/-- A whole number from `low` to `high`. -/
def integer (low high : Int) (expected : Text) : Reader Int := fun t =>
  let check : Number × Text → Except Fault (Int × Text)
    | (.integer n, rest) =>
      if low ≤ n ∧ n ≤ high then .ok (n, rest) else failAt (.outOfRange n expected) rest
    | (.real x, rest) => failAt (.wrongType (.real x) expected) rest
  match skipSpace t with
  | '-' :: rest => (number false rest).bind check
  | [] => failAt .endInValue []
  | c :: rest =>
    if Numeral.isDigit c then (number true (c :: rest)).bind check
    else mismatch expected (c :: rest)

/-- A string. -/
def string (expected : Text) : Reader Text := fun t =>
  match skipSpace t with
  | '"' :: rest => stringBody rest
  | body => mismatch expected body

/-- A value, or nothing when the literal `null` stands for it. -/
def optional {α : Type} (item : Reader α) : Reader (Option α) := fun t =>
  match skipSpace t with
  | 'n' :: rest => (literal "ull" rest).map fun after => (none, after)
  | body => (item body).map fun (a, after) => (some a, after)

/-- A reader followed by a function. -/
def mapped {α β : Type} (f : α → β) (item : Reader α) : Reader β := fun t =>
  (item t).map fun (a, after) => (f a, after)

/-! ## Lists -/

/-- What comes next in a list: its end, or an element. -/
inductive Next where
  | ended (rest : Text)
  | element (body : Text)
  deriving DecidableEq, Repr

/-- The next element of a list or its end. -/
def nextElement (first : Bool) (t : Text) : Except Fault Next :=
  match skipSpace t with
  | [] => failAt .endInList []
  | c :: rest =>
    if c = ']' then .ok (.ended rest)
    else if first then .ok (.element (c :: rest))
    else if c = ',' then
      match skipSpace rest with
      | [] => failAt .endInValue []
      | ']' :: after => failPast .trailingComma (']' :: after)
      | body => .ok (.element body)
    else failPast .expectedListEnd (c :: rest)

/-- The elements of a list from a place on.  Every element takes a character, so that `fuel` need
not exceed the length of the text. -/
def elements {α : Type} (item : Reader α) : (fuel : Nat) → (first : Bool) → Reader (List α)
  | 0, _, t => failAt .endInList t
  | fuel + 1, first, t =>
    match nextElement first t with
    | .error fault => .error fault
    | .ok (.ended rest) => .ok ([], rest)
    | .ok (.element body) =>
      match item body with
      | .error fault => .error fault
      | .ok (a, after) =>
        match elements item fuel false after with
        | .error fault => .error fault
        | .ok (as, rest) => .ok (a :: as, rest)

/-- A list. -/
def list {α : Type} (item : Reader α) : Reader (List α) := fun t =>
  match skipSpace t with
  | '[' :: rest => elements item (rest.length + 1) true rest
  | body => mismatch "a sequence" body

/-! ## Records -/

/-- A field of a record: how its value is read and put into the record. -/
structure Field (σ : Type) where
  name : Text
  required : Bool
  read : Reader (σ → σ)

/-- A field by the reader of its values. -/
def Field.of {σ α : Type} (name : Text) (required : Bool) (item : Reader α) (set : α → σ → σ) :
    Field σ :=
  ⟨name, required, mapped set item⟩

/-- What is done with a member that is no field. -/
inductive Unknown where
  /-- Its value is passed over. -/
  | skipped
  /-- It is a fault. -/
  | refused
  deriving DecidableEq, Repr

/-- The form of a record. -/
structure Shape (σ : Type) where
  /-- What the record is called in faults. -/
  expected : Text
  fields : List (Field σ)
  unknown : Unknown
  /-- The record before any field is read. -/
  initial : σ

/-- The names of the fields. -/
def Shape.names {σ : Type} (s : Shape σ) : List Text := s.fields.map Field.name

/-- A fault about a key: its place is behind the key, white space, and a brace that closes the
object there. -/
def failBehindKey {α : Type} (cause : Cause) (rest : Text) : Except Fault α :=
  match skipSpace rest with
  | '}' :: after => failAt cause after
  | body => failAt cause body

/-- What comes next in an object: its end, or a key after its opening quote. -/
def nextMember (first : Bool) (t : Text) : Except Fault Next :=
  match skipSpace t with
  | [] => failAt .endInObject []
  | c :: rest =>
    if c = '}' then .ok (.ended rest)
    else if first then
      if c = '"' then .ok (.element rest) else failPast .keyNotString (c :: rest)
    else if c = ',' then
      match skipSpace rest with
      | [] => failAt .endInValue []
      | '"' :: body => .ok (.element body)
      | '}' :: after => failPast .trailingComma ('}' :: after)
      | body => failPast .keyNotString body
    else failPast .expectedObjectEnd (c :: rest)

/-- The value of a member, put into the record.  Also whether the member is a field. -/
def memberValue {σ : Type} (s : Shape σ) (seen : List Text) (key : Text) (state : σ) (t : Text) :
    Except Fault ((σ × Bool) × Text) :=
  match s.fields.find? fun f => f.name == key with
  | some f =>
    if key ∈ seen then failBehindKey (.duplicateField key) t
    else
      match colon t with
      | .error fault => .error fault
      | .ok body => (f.read body).map fun (set, rest) => ((set state, true), rest)
  | none =>
    match s.unknown with
    | .refused => failBehindKey (.unknownField key s.names) t
    | .skipped =>
      match colon t with
      | .error fault => .error fault
      | .ok body => (skipValue body).map fun rest => ((state, false), rest)

/-- A record whose object has ended, unless a field is missing. -/
def completed {σ : Type} (s : Shape σ) (seen : List Text) (state : σ) (rest : Text) :
    Except Fault (σ × Text) :=
  match s.fields.find? fun f => f.required && !seen.contains f.name with
  | some f => failAt (.missingField f.name) rest
  | none => .ok (state, rest)

/-- The members of an object from a place on.  Every member takes a character. -/
def members {σ : Type} (s : Shape σ) :
    (fuel : Nat) → (first : Bool) → (seen : List Text) → σ → Reader σ
  | 0, _, _, _, t => failAt .endInObject t
  | fuel + 1, first, seen, state, t =>
    match nextMember first t with
    | .error fault => .error fault
    | .ok (.ended rest) => completed s seen state rest
    | .ok (.element body) =>
      match stringBody body with
      | .error fault => .error fault
      | .ok (key, behind) =>
        match memberValue s seen key state behind with
        | .error fault => .error fault
        | .ok ((next, isField), rest) =>
          members s fuel false (if isField then key :: seen else seen) next rest

/-- The end of a record in list form whose fields are all read. -/
def listEnd {α : Type} (a : α) (t : Text) : Except Fault (α × Text) :=
  match skipSpace t with
  | [] => failAt .endInList []
  | ']' :: rest => .ok (a, rest)
  | ',' :: rest =>
    match skipSpace rest with
    | ']' :: after => failPast .trailingComma (']' :: after)
    | body => failPast .trailingCharacters body
  | body => failPast .trailingCharacters body

/-- The words for a record that needs all its elements. -/
def Shape.expectedLength {σ : Type} (s : Shape σ) : Text :=
  s.expected ++ " with " ++ Numeral.ofNat s.fields.length ++ " elements"

/-- The fields of a record in list form, from the field with the given index on. -/
def slots {σ : Type} (s : Shape σ) (index : Nat) (state : σ) : List (Field σ) → Reader σ
  | [], t => listEnd state t
  | f :: fields, t =>
    match nextElement (index == 0) t with
    | .error fault => .error fault
    | .ok (.ended rest) =>
      match (f :: fields).findIdx? Field.required with
      | some i => failAt (.tooShort (index + i) s.expectedLength) rest
      | none => .ok (state, rest)
    | .ok (.element body) =>
      match f.read body with
      | .error fault => .error fault
      | .ok (set, rest) => slots s (index + 1) (set state) fields rest

/-- A record, as an object or as a list of its fields in order. -/
def record {σ : Type} (s : Shape σ) : Reader σ := fun t =>
  match skipSpace t with
  | '{' :: rest => members s (rest.length + 1) true [] s.initial rest
  | '[' :: rest => slots s 0 s.initial s.fields rest
  | body => mismatch s.expected body

/-! ## Documents -/

/-- A document: one value, and nothing but white space behind it. -/
def document {α : Type} (item : Reader α) (t : Text) : Except Fault α :=
  match item t with
  | .error fault => .error fault
  | .ok (a, rest) =>
    match skipSpace rest with
    | [] => .ok a
    | body => failPast .trailingCharacters body

/-- A document, with the place of its fault. -/
def read {α : Type} (item : Reader α) (t : Text) : Except Located α :=
  match document item t with
  | .error fault => .error (fault.locate t)
  | .ok a => .ok a

end PrimitiveSearch.Json
