import PrimitiveSearch.Declaration.Signature

/-!
# Proposed specialisations

A model proposes wrappers that fix some arguments of one primitive.  By convention a wrapper of
`base` is named `base_suffix`.
-/

set_option autoImplicit false

namespace PrimitiveSearch

/-- A wrapper: its own signature, and the statements between its outermost braces. -/
structure Proposal where
  signature : Signature
  body : Text
  deriving DecidableEq, Repr

/-- The primitive that a wrapper claims to specialise: its name up to the first underscore, when
something stands on both sides of it. -/
def Proposal.baseName? (p : Proposal) : Option Text :=
  (Text.cutAtFirst ['_'] p.signature.name).bind fun (base, suffix) =>
    if base.isEmpty || suffix.isEmpty then none else some base

end PrimitiveSearch
