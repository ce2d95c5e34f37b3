import PrimitiveSearch.Catalogue
import PrimitiveSearch.Proposal.Basic

/-!
# Checking proposals

A proposal is in shape when its name names a primitive, and its body calls that primitive and no
other, once.

* `Proposal.calls` — the names that a body calls, in text order.
* `Proposal.issues` — what is out of shape; nothing for a proposal in shape.
-/

set_option autoImplicit false

namespace PrimitiveSearch.Proposal

/-- What can be out of shape in a proposal. -/
inductive Issue where
  /-- The name is not of the form `base_suffix`. -/
  | missingSuffix
  /-- No primitive has the base name. -/
  | unknownBase (base : Text)
  /-- The body calls this many primitives. -/
  | primitiveCalls (count : Nat)
  /-- The body calls another primitive than the base. -/
  | baseNotCalled (base called : Text)
  deriving DecidableEq, Repr

/-- The words for an issue. -/
def Issue.message : Issue → Text
  | .missingSuffix => "name lacks a <base>_<suffix> form"
  | .unknownBase base => "unknown base primitive " ++ base
  | .primitiveCalls count => "body calls " ++ Numeral.ofNat count ++ " primitives"
  | .baseNotCalled base called => "body calls " ++ called ++ " instead of " ++ base

/-- Whether a word is followed by an opening parenthesis, white space aside. -/
def opensCall (rest : Text) : Bool := (Text.trimFront rest).head? == some '('

theorem length_dropWhile_le {α : Type} (p : α → Bool) (l : List α) :
    (l.dropWhile p).length ≤ l.length := (List.dropWhile_sublist p).length_le

/-- The words of a text that are followed by an opening parenthesis and start like a name, in
text order.  Words are maximal runs of word characters. -/
def calls : Text → List Text
  | [] => []
  | c :: rest =>
    if Text.isWord c then
      let after := rest.dropWhile Text.isWord
      if Text.isWordStart c && opensCall after then
        (c :: rest.takeWhile Text.isWord) :: calls after
      else calls after
    else calls rest
  termination_by t => t.length
  decreasing_by
    all_goals
      have := length_dropWhile_le Text.isWord rest
      simp only [List.length_cons]
      omega

/-- The primitives that a proposal's body calls, once for each call. -/
def primitiveCalls (p : Proposal) (c : Catalogue) : List Text :=
  (calls p.body).filter c.hasName

/-- What is wrong with a proposal's name. -/
def nameIssues (p : Proposal) (c : Catalogue) : List Issue :=
  match p.baseName? with
  | none => [.missingSuffix]
  | some base => if c.hasName base then [] else [.unknownBase base]

/-- What is wrong with a proposal's body. -/
def callIssues (p : Proposal) (c : Catalogue) : List Issue :=
  match p.primitiveCalls c with
  | [called] =>
    match p.baseName?.filter c.hasName with
    | some base => if called = base then [] else [.baseNotCalled base called]
    | none => []
  | called => [.primitiveCalls called.length]

/-- Everything that is out of shape in a proposal. -/
def issues (p : Proposal) (c : Catalogue) : List Issue := p.nameIssues c ++ p.callIssues c

end PrimitiveSearch.Proposal
