import PrimitiveSearch.Json.Lexeme
import PrimitiveSearch.Json.Number

/-!
# Passing over a value

A value whose meaning does not matter is passed over without bounds on its nesting.  The brackets
that are open are kept on a stack.

* `Json.skipValue` — what follows a value.
-/

set_option autoImplicit false

namespace PrimitiveSearch.Json

/-- An open bracket or brace. -/
inductive Open where
  | list
  | object
  deriving DecidableEq, Repr

/-- The character that closes. -/
def Open.closing : Open → Char
  | .list => ']'
  | .object => '}'

/-- The fault of a text that ends inside. -/
def Open.unfinished : Open → Cause
  | .list => .endInList
  | .object => .endInObject

/-- The fault of a text that neither goes on nor closes. -/
def Open.unseparated : Open → Cause
  | .list => .expectedListEnd
  | .object => .expectedObjectEnd

/-- What follows the colon after a key. -/
def colon (t : Text) : Except Fault Text :=
  match skipSpace t with
  | [] => failAt .endInObject []
  | ':' :: rest => .ok rest
  | rest => failPast .expectedColon rest

/-- What follows a key and its colon. -/
def skipKey (t : Text) : Except Fault Text :=
  match skipSpace t with
  | [] => failAt .endInObject []
  | '"' :: rest => (skipString rest).bind colon
  | rest => failPast .keyNotString rest

/-- What follows a value that is neither a list nor an object. -/
def skipScalar (t : Text) : Except Fault Text :=
  match t with
  | [] => failAt .endInValue []
  | c :: rest =>
    if c = 'n' then literal "ull" rest
    else if c = 't' then literal "rue" rest
    else if c = 'f' then literal "alse" rest
    else if c = '-' then skipNumber rest
    else if Numeral.isDigit c then skipNumber t
    else if c = '"' then skipString rest
    else failPast .expectedValue t

/-- Where a walk over a value stands. -/
inductive Stage where
  /-- In front of a value. -/
  | value
  /-- Behind an opening bracket. -/
  | opened
  /-- Behind a value. -/
  | done
  deriving DecidableEq, Repr

/-- The stage and the text after the key of a member; in a list there is none. -/
def toElement (top : Open) (t : Text) : Except Fault Text :=
  match top with
  | .list => .ok t
  | .object => skipKey t

/-- What follows a value, with the open brackets around the place that is reached.  `fuel` bounds
the number of steps; each of them, but one for every element, takes a character. -/
def skipFrom : (fuel : Nat) → Stage → List Open → Text → Except Fault Text
  | 0, _, _, t => failAt .expectedValue t
  | fuel + 1, .value, stack, t =>
    match skipSpace t with
    | '[' :: rest => skipFrom fuel .opened (.list :: stack) rest
    | '{' :: rest => skipFrom fuel .opened (.object :: stack) rest
    | body => (skipScalar body).bind fun rest => skipFrom fuel .done stack rest
  | _ + 1, _, [], t => .ok t
  | fuel + 1, stage, top :: stack, t =>
    match skipSpace t with
    | [] => failAt top.unfinished []
    | c :: rest =>
      if c = ',' ∧ stage = .done then
        (toElement top rest).bind fun body => skipFrom fuel .value (top :: stack) body
      else if c = top.closing then skipFrom fuel .done stack rest
      else if stage = .done then failPast top.unseparated (c :: rest)
      else (toElement top (c :: rest)).bind fun body => skipFrom fuel .value (top :: stack) body

/-- What follows a value. -/
def skipValue (t : Text) : Except Fault Text := skipFrom (2 * t.length + 2) .value [] t

end PrimitiveSearch.Json
