import PrimitiveSearch.Text.Basic

/-!
# Sets of characters as sorted boundaries

A set of characters is written as the increasing list of the code points at which membership
changes: `[a, b, c, d]` stands for `a ≤ n < b` or `c ≤ n < d`.
-/

set_option autoImplicit false

namespace PrimitiveSearch.Text

/-- Membership in the set with the given boundaries: an odd number of them has been passed. -/
def inBounds (bounds : List Nat) (c : Char) : Bool :=
  (bounds.takeWhile (· ≤ c.toNat)).length % 2 == 1

end PrimitiveSearch.Text
