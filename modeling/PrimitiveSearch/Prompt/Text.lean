import PrimitiveSearch.Answer.Basic
import PrimitiveSearch.Prompt.Instructions
import PrimitiveSearch.Report
import PrimitiveSearch.Task.Basic

/-!
# The prompt

The prompt shows the pairs of a task and the primitives on offer, gives the instructions, tells
the last result of the engine unless it was exact, and ends in an example of an answer.

* `Prompt.feedbackText` — the sentence on the last result.
* `Prompt.exampleLines` — the example, line by line.
* `Prompt.text` — the whole prompt.
-/

set_option autoImplicit false

namespace PrimitiveSearch.Prompt

/-- A pair on one line. -/
def pairLine (p : Pair) : Text := '(' :: p.input.text ++ ", " ++ p.output.text ++ [')']

/-- The lines above the instructions: the pairs to learn from, and the primitives on offer. -/
def opening (t : Task) (c : Catalogue) : List Text :=
  "You are given several input-output grid pairs from an ARC task:".toList ::
    t.train.map pairLine ++
  [[], "You are given several C++ function declarations as primitives:".toList] ++
  c.entries.map Entry.note ++ [[]]

/-- The sentence on a result of the engine. -/
def feedbackText (r : Report) : Text :=
  "The best found connection from the engine has a cost of " ++ r.cost.exactText ++
    " and its expression is: " ++ r.expression ++ ['.']

/-- What is told of the last result, if there is one: nothing when it was exact. -/
def feedback (last : Option Report) : Text :=
  match last with
  | none => []
  | some r => if r.isExact then [] else feedbackText r ++ "\n\n"

/-- The line above the example. -/
def exampleHeading : Text :=
  "EXPECTED OUTPUT EXAMPLE WITHOUT ANY FORMATTING AND ANY EXPLANATIONS:"

/-- The example of an answer, line by line. -/
def exampleLines : List Text :=
  [Answer.Part.selection.marker,
   "int foo(int arg0, bool arg1);",
   "std::map<int, int> bar(int arg0, double arg1);",
   [],
   Answer.Part.proposals.marker,
   "int foo_i4(bool arg1) \x7b return foo(4, arg1); \x7d",
   "int foo_i6(bool arg1) \x7b return foo(6, arg1); \x7d",
   "std::map<int, int> bar_d1(int arg0) \x7b return bar(arg0, 1.0); \x7d",
   "std::map<int, int> bar_d2(int arg0) \x7b return bar(arg0, 2.0); \x7d",
   [],
   Answer.depthMarker,
   "2"]

/-- The prompt for a task and a catalogue, after the given last result. -/
def text (t : Task) (c : Catalogue) (last : Option Report) : Text :=
  Text.ofLines (opening t c ++ instructions) ++ feedback last ++
    Text.unlines (exampleHeading :: exampleLines)

end PrimitiveSearch.Prompt
