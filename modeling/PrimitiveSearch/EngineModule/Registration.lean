import PrimitiveSearch.Declaration.Signature

/-!
# Registrations

A selected primitive is made known to the engine by two lines of its source: one declares a neuron
with the tags of its slots, one adds it to the engine's list.
-/

set_option autoImplicit false

namespace PrimitiveSearch.EngineModule

/-- What the engine has to know of a selected primitive. -/
structure Registration where
  name : Text
  inputs : List TypeTag
  output : TypeTag
  deriving DecidableEq, Repr

namespace Registration

/-- The registration of a signature. -/
def ofSignature (s : Signature) : Registration := ⟨s.name, s.inputTags, s.outputTag⟩

/-- The line that declares the neuron. -/
def declaration (r : Registration) : Text :=
  "    Neuron " ++ r.name ++ "_neuron\x7b\"" ++ r.name ++ "\", fulls::" ++ r.name ++ ", \x7b" ++
    List.intercalate ", ".toList (r.inputs.map TypeTag.expression) ++ "\x7d, " ++
    r.output.expression ++ "\x7d;"

/-- The line that adds the neuron to the list. -/
def addition (r : Registration) : Text := "    neurons.emplace_back(" ++ r.name ++ "_neuron);"

/-- Both lines, each with its line feed. -/
def text (r : Registration) : Text := r.declaration ++ '\n' :: r.addition ++ ['\n']

end Registration

end PrimitiveSearch.EngineModule
