import PrimitiveSearch.Declaration.Split
import PrimitiveSearch.Declaration.Parameter

/-!
# Signatures

The structured view of one declaration, and its three written forms:

* `Signature.parse?` — a signature from a declaration; refused when an argument is empty.
* `Signature.key` — `ret name(type1 name1, type2 name2);`, by which signatures are looked up.
* `Signature.bareKey` — the same without parameter names.
-/

set_option autoImplicit false

namespace PrimitiveSearch

/-- A function declaration with the free text that explains it. -/
structure Signature where
  returnType : Text
  name : Text
  parameters : List Parameter
  description : Text
  deriving DecidableEq, Repr

/-- A type by which the engine tells slots apart.  Two spellings of one type are two tags. -/
structure TypeTag where
  typeText : Text
  deriving DecidableEq, Repr

namespace TypeTag

/-- The expression that yields the identity of a type at run time. -/
def expression (tag : TypeTag) : Text := "typeid(" ++ tag.typeText ++ ")"

end TypeTag

namespace Signature

/-- The parameters in an argument text, unless one of the arguments is empty. -/
def parameters? (arguments : Text) : Option (List Parameter) :=
  let segments := if Text.isBlankText arguments then [] else Declaration.segments arguments
  if segments.any List.isEmpty then none else some (segments.map Parameter.ofSegment)

/-- The signature that a declaration denotes, without a description. -/
def parse? (declaration : Text) : Option Signature :=
  (Declaration.split? declaration).bind fun s =>
    (parameters? s.arguments).map fun ps => ⟨s.returnType, s.name, ps, []⟩

/-- A signature written with the given texts between its parentheses. -/
def written (s : Signature) (arguments : List Text) : Text :=
  s.returnType ++ ' ' :: s.name ++ '(' :: List.intercalate ", ".toList arguments ++ ");"

/-- The written form by which a signature is looked up. -/
def key (s : Signature) : Text := s.written (s.parameters.map Parameter.text)

/-- The types of the parameters, in slot order. -/
def parameterTypes (s : Signature) : List Text := s.parameters.map Parameter.typeText

/-- The written form without parameter names. -/
def bareKey (s : Signature) : Text := s.written s.parameterTypes

/-- The tags of the inputs, in slot order. -/
def inputTags (s : Signature) : List TypeTag := s.parameterTypes.map TypeTag.mk

/-- The tag of the output. -/
def outputTag (s : Signature) : TypeTag := ⟨s.returnType⟩

/-- The names of the parameters, in slot order. -/
def argumentNames (s : Signature) : List Text :=
  s.parameters.mapIdx fun i p => p.slotName i

end Signature

end PrimitiveSearch
