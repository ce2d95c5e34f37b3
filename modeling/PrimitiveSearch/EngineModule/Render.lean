import PrimitiveSearch.Answer.Basic
import PrimitiveSearch.EngineModule.Header
import PrimitiveSearch.EngineModule.Registration
import PrimitiveSearch.Proposal.Check

/-!
# The engine module for an answer

An answer becomes two files: the header, and the engine source with one registration for each
selected primitive.  Overloads of one name would clash in both, so of each name the first
selected signature counts.  Proposals are checked and kept aside; they reach neither file.

* `firstOfName` — the first signature of each name.
* `EngineModule.render` — both files, the registrations and the checked proposals.
-/

set_option autoImplicit false

namespace PrimitiveSearch

namespace EngineModule

/-- The engine source around the registrations. -/
structure Template where
  prologue : Text
  epilogue : Text
  deriving DecidableEq, Repr

/-- A proposal that was checked and kept aside. -/
structure Deferred where
  proposal : Proposal
  issues : List Proposal.Issue
  deriving DecidableEq, Repr

/-- Whether a proposal is in shape. -/
def Deferred.isWellFormed (d : Deferred) : Bool := d.issues.isEmpty

/-- The signatures whose name is not among those already taken, the first of each name. -/
def firstOfNameFrom (taken : List Text) : List Signature → List Signature
  | [] => []
  | s :: rest =>
    if s.name ∈ taken then firstOfNameFrom taken rest
    else s :: firstOfNameFrom (s.name :: taken) rest

/-- The first signature of each name, in order. -/
def firstOfName (signatures : List Signature) : List Signature := firstOfNameFrom [] signatures

end EngineModule

open EngineModule in
/-- The outcome of rendering an answer. -/
structure EngineModule where
  header : Text
  engineSource : Text
  registrations : List Registration
  deferred : List Deferred
  deriving DecidableEq, Repr

namespace EngineModule

/-- The engine source: the registrations between prologue and epilogue. -/
def sourceText (t : Template) (registrations : List Registration) : Text :=
  t.prologue ++ registrations.flatMap Registration.text ++ t.epilogue

/-- The module for an answer. -/
def render (f : Frame) (c : Catalogue) (a : Answer) (t : Template) : EngineModule :=
  let selected := firstOfName a.selected
  let registrations := selected.map Registration.ofSignature
  { header := f.text c.signatures (selected.map Signature.name)
    engineSource := sourceText t registrations
    registrations := registrations
    deferred := a.proposals.map fun p => ⟨p, p.issues c⟩ }

end EngineModule

end PrimitiveSearch
