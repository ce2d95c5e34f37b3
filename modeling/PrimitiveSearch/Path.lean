import PrimitiveSearch.Text.Basic

/-!
# Paths

A path is its text; nothing is normalised.

* `Path.join` — one path below another; an absolute right side replaces the left.
* `Path.parent?` — the path without its last component.
-/

set_option autoImplicit false

namespace PrimitiveSearch

/-- A path, as it is written. -/
abbrev Path := Text

namespace Path

/-- Whether a path starts at the root. -/
def isAbsolute (p : Path) : Bool := p.head? == some '/'

/-- A path below another.  A slash is put between them unless the left side is empty or ends in
one; an absolute right side stands alone. -/
def join (p q : Path) : Path :=
  if isAbsolute q then q
  else if p.isEmpty || p.getLast? == some '/' then p ++ q
  else p ++ '/' :: q

/-- The pieces of a path between its slashes. -/
def pieces : Path → List Text
  | [] => [[]]
  | c :: rest =>
    if c = '/' then [] :: pieces rest
    else match pieces rest with
      | [] => [[c]]
      | piece :: more => (c :: piece) :: more

/-- A path without the slashes and the `/.` at its end, written backwards. -/
def dropTrail : Text → Text
  | '/' :: rest => dropTrail rest
  | '.' :: '/' :: rest => dropTrail rest
  | t => t

/-- The path without its last component; none for the root and the empty path. -/
def parent? (p : Path) : Option Path :=
  match dropTrail p.reverse with
  | [] => none
  | back =>
    match back.dropWhile (· != '/') with
    | [] => some []
    | rest =>
      match dropTrail rest with
      | [] => some ['/']
      | front => some front.reverse

end Path

end PrimitiveSearch
