import PrimitiveSearch.Text.Letter

/-!
# The declaration grammar

A declaration is written `return-type name(arguments);`.  White space may stand before it, between
its parts and after it.  A text can be cut in several ways that follow this grammar; `split?`
takes the cut with the longest leading white space and, among those, the shortest return type.
All other parts are then forced.

* `Parts`, `Parts.Follows` — a text cut into all its parts, and the rules for them.
* `split?` — the parts that matter, by recursion over the text.
-/

set_option autoImplicit false

namespace PrimitiveSearch.Declaration

/-! ## The grammar -/

/-- Everything a declaration consists of, gaps included. -/
structure Parts where
  lead : Text
  returnType : Text
  gap : Text
  name : Text
  beforeOpen : Text
  arguments : Text
  beforeEnd : Text
  trail : Text

/-- The text that some parts make up. -/
def Parts.text (p : Parts) : Text :=
  p.lead ++ p.returnType ++ p.gap ++ p.name ++ p.beforeOpen ++ '(' :: p.arguments ++
    ')' :: p.beforeEnd ++ ';' :: p.trail

/-- A name: an ASCII letter or underscore, then word characters. -/
def IsName : Text → Prop
  | [] => False
  | c :: rest => Text.isWordStart c = true ∧ ∀ d ∈ rest, Text.isWord d = true

/-- The rules that the parts of a declaration keep to. -/
structure Parts.Follows (p : Parts) : Prop where
  lead : ∀ c ∈ p.lead, Text.isBlank c = true
  returnType_ne : p.returnType ≠ []
  returnType : '\n' ∉ p.returnType
  gap_ne : p.gap ≠ []
  gap : ∀ c ∈ p.gap, Text.isBlank c = true
  name : IsName p.name
  beforeOpen : ∀ c ∈ p.beforeOpen, Text.isBlank c = true
  arguments : '\n' ∉ p.arguments
  beforeEnd : ∀ c ∈ p.beforeEnd, Text.isBlank c = true
  trail : ∀ c ∈ p.trail, Text.isBlank c = true

/-! ## Cutting -/

/-- The parts of a declaration that carry meaning. -/
structure Split where
  returnType : Text
  name : Text
  arguments : Text
  deriving DecidableEq, Repr

/-- What stands before the parenthesis that closes a declaration. -/
def beforeClose? (t : Text) : Option Text :=
  (Text.beforeLast? ';' (Text.trimBack t)).bind fun u => Text.beforeLast? ')' (Text.trimBack u)

/-- The name and the arguments, when a text starts with white space, a name and an opening
parenthesis, and has no line feed after that. -/
def named? : Text → Option (Text × Text)
  | [] => none
  | c :: rest =>
    if !Text.isBlank c then none
    else
      let body := Text.trimFront rest
      match body with
      | [] => none
      | d :: _ =>
        if !Text.isWordStart d then none
        else match Text.trimFront (body.dropWhile Text.isWord) with
          | '(' :: arguments =>
            if arguments.contains '\n' then none
            else some (body.takeWhile Text.isWord, arguments)
          | _ => none

/-- The cut with the shortest return type at the front of a text. -/
def typed? : Text → Option Split
  | [] => none
  | c :: rest =>
    if c = '\n' then none
    else match named? rest with
      | some (name, arguments) => some ⟨[c], name, arguments⟩
      | none => (typed? rest).map fun s => { s with returnType := c :: s.returnType }

/-- The cut with the longest leading white space. -/
def led? : Text → Option Split
  | [] => none
  | c :: rest =>
    if Text.isBlank c then
      match led? rest with
      | some s => some s
      | none => typed? (c :: rest)
    else typed? (c :: rest)

/-- The parts of a declaration, if a text follows the grammar. -/
def split? (t : Text) : Option Split := (beforeClose? t).bind led?

end PrimitiveSearch.Declaration
