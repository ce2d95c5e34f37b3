import PrimitiveSearch.Declaration.Signature

/-!
# The generated header

The header wraps every primitive of the catalogue into a call on boxed values, brings the selected
primitives into a namespace of their own, and ends in a namespace for specialisations that takes
in the wrappers.

* `Frame` — the fixed text around the declarations.
* `wrapper` — the boxed call of one primitive.
* `Frame.lines` — the whole header, line by line.
-/

set_option autoImplicit false

namespace PrimitiveSearch.EngineModule

/-- The fixed text of a header. -/
structure Frame where
  /-- The enclosing namespace. -/
  scope : Text
  /-- The macro that guards against a second inclusion. -/
  guard : Text
  /-- Headers included in angle brackets. -/
  systemIncludes : List Text
  /-- Headers included in quotes. -/
  localIncludes : List Text
  deriving DecidableEq, Repr

/-- The frame used when none is given. -/
def Frame.default : Frame where
  scope := "aicpp"
  guard := "AICPP_PARTIALS_H"
  systemIncludes := ["any".toList, "map".toList, "vector".toList]
  localIncludes := ["aicpp/primitives.h".toList, "aicpp/utility.h".toList]

/-- The indentation of what stands inside an inner namespace. -/
def indent : Text := "        "

/-- A parameter of a wrapper: a constant reference of the slot's type. -/
def wrapperParameter (p : Parameter) (name : Text) : Text := p.typeText ++ " const& " ++ name

/-- The parameter list of a wrapper. -/
def wrapperParameters (s : Signature) : Text :=
  List.intercalate ", ".toList (List.zipWith wrapperParameter s.parameters s.argumentNames)

/-- The boxed call of one primitive, line by line. -/
def wrapper (s : Signature) : List Text :=
  [indent ++ "inline std::any " ++ s.name ++ '(' :: wrapperParameters s ++ [')'],
   indent ++ ['\x7b'],
   indent ++ "    return primitives::" ++ s.name ++ "(std::vector<std::any>\x7b" ++
     List.intercalate ", ".toList s.argumentNames ++ "\x7d);",
   indent ++ ['\x7d'],
   []]

/-- The line that brings a selected primitive in. -/
def usingLine (name : Text) : Text := indent ++ "using primitives::" ++ name ++ [';']

/-- An inner namespace with its content, line by line. -/
def inner (name : Text) (content : List Text) : List Text :=
  ["    namespace ".toList ++ name, "    \x7b".toList] ++ content ++ ["    \x7d".toList]

/-- The header for a catalogue and the names of the selected primitives, line by line. -/
def Frame.lines (f : Frame) (offered : List Signature) (selected : List Text) : List Text :=
  ["#ifndef ".toList ++ f.guard, "#define ".toList ++ f.guard, []] ++
  f.systemIncludes.map (fun name => "#include <".toList ++ name ++ ['>']) ++ [[]] ++
  f.localIncludes.map (fun name => "#include \"".toList ++ name ++ ['"']) ++ [[]] ++
  ["namespace ".toList ++ f.scope, ['\x7b']] ++
  inner "specifics" (offered.flatMap wrapper) ++ [[]] ++
  inner "fulls" (selected.map usingLine) ++ [[]] ++
  inner "partials" [indent ++ "using namespace specifics;"] ++
  [['\x7d'], [], "#endif // ".toList ++ f.guard]

/-- The text of a header. -/
def Frame.text (f : Frame) (offered : List Signature) (selected : List Text) : Text :=
  Text.ofLines (f.lines offered selected)

end PrimitiveSearch.EngineModule
