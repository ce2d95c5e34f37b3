import PrimitiveSearch.Text.Basic

/-!
# Instructions for the model

The fixed part of a prompt, line by line.  Every section ends in an empty line.
-/

set_option autoImplicit false

namespace PrimitiveSearch.Prompt

/-- What the model is asked for. -/
def purpose : List Text :=
  ["Your task is NOT to solve the ARC task directly.",
   "",
   "You must help a symbolic program synthesis engine by generating",
   "PARTIALLY PARAMETERIZED C++ FUNCTIONS based on the given primitives.",
   "",
   "These functions must restrict the search space by fixing some parameters",
   "(constants, sizes, colors, booleans, or structural choices),",
   "while keeping other parameters free.",
   "",
   "A partially parameterized function:",
   "- calls exactly ONE existing primitive function",
   "- fixes one or more arguments to constant values",
   "- exposes the remaining arguments as parameters",
   "- does not introduce new logic",
   "- does not combine multiple primitives",
   ""]

/-- What the model must not do. -/
def rules : List Text :=
  ["Rules:",
   "- Do NOT invent new primitive operations.",
   "- Do NOT modify the body logic of primitives.",
   "- Do NOT combine multiple primitives in a single function.",
   "- Do NOT use loops, conditionals, or additional computations.",
   "- Only generate function wrappers that call an existing function.",
   ""]

/-- How the answer is to be written. -/
def outputRules : List Text :=
  ["Output format:",
   "- Output ONLY valid C++ function declarations and definitions.",
   "- No explanations.",
   "- No formatting.",
   "- No comments.",
   "- No markdown.",
   "- No extra text.",
   "- Each function must be standalone and compilable.",
   "- Use types explicitly and no initializer lists.",
   ""]

/-- Examples of declarations, of wrappers, and of what is no wrapper. -/
def examples : List Text :=
  ["Examples of full verbatim function declarations:",
   "int foo(int i, bool b);",
   "std::map<int, int> inferColorMapping(std::vector<std::pair<Eigen::MatrixXi, ".toList ++
     "Eigen::MatrixXi>> arg0);",
   "",
   "Example:",
   "",
   "Primitives:",
   "int foo(int arg0, bool arg1);",
   "std::map<int, int> bar(int arg0, double arg1);",
   "",
   "Valid partial parameterizations:",
   "int foo_i4(bool arg1) \x7b return foo(4, arg1); \x7d",
   "int foo_i6(bool arg1) \x7b return foo(6, arg1); \x7d",
   "std::map<int, int> bar_d1(int arg0) \x7b return bar(arg0, 1.0); \x7d",
   "std::map<int, int> bar_d2(int arg0) \x7b return bar(arg0, 2.0); \x7d",
   "",
   "Invalid:",
   "int bar(int x) \x7b return foo(x, true) + 1; \x7d",
   "int baz(int x) \x7b if (x > 0) return foo(x, true); \x7d",
   ""]

/-- When a wrapper is worth proposing. -/
def guidance : List Text :=
  ["Based on the observed input-output grid transformations,",
   "identify constants or structural patterns that are likely invariant",
   "across examples (such as fixed colors, fixed grid sizes,",
   "specific region counts, or alignment directions).",
   "",
   "Generate partial parameterizations that reflect these invariants.",
   "Generate at most 5 partial parameterizations per primitive.",
   "Prefer fewer, higher-confidence specializations.",
   "",
   "If no reasonable partial parameterization can be inferred for a primitive,",
   "do NOT generate any function for it.",
   "",
   "The symbolic engine will evaluate all generated functions exhaustively.",
   "Do not attempt to rank, score, or select solutions.",
   "",
   "If a primitive already fully matches the observed transformation",
   "without requiring any fixed parameter,",
   "DO NOT generate any partial parameterization for it.",
   "",
   "Only generate a partial parameterization if it is expected",
   "to significantly reduce the search depth or branching factor",
   "compared to using the primitive directly.",
   "",
   "Do not generate partial parameterizations for primitives",
   "that do not have free scalar or structural parameters.",
   "",
   "Before outputting a function, ask yourself:",
   "\"Does this function restrict the domain of the primitive",
   "more than calling the primitive directly?\"",
   "If the answer is no, do not output it.",
   ""]

/-- The three sections, in the order in which they are to be found. -/
def steps : List Text :=
  ["First, select which of the given primitives are potentially useful",
   "for explaining the observed input-output transformations.",
   "",
   "Output the selected primitive declarations verbatim.",
   "",
   "Then, for each selected primitive, generate partial parameterizations",
   "ONLY IF fixing parameters is likely to further reduce the search space.",
   "",
   "Finally, provide an integer number as the maximum depth level required",
   "to combine the different primitives for the exploration engine.",
   "",
   "It is valid to select a primitive without generating any partial parameterization for it.",
   ""]

/-- Functions that wrappers may use to build values. -/
def utilities : List Text :=
  ["Useful utility functions for type conversions:",
   "std::vector<std::pair<Eigen::MatrixXi, Eigen::MatrixXi> > ".toList ++
     "utility::matrixPairs(std::initializer_list<std::initializer_list<".toList ++
     "std::initializer_list<int> > > const& values);",
   "std::vector<Eigen::MatrixXi> ".toList ++
     "utility::matrices(std::initializer_list<std::initializer_list<".toList ++
     "std::initializer_list<int> > > const& values);",
   ""]

/-- All instructions. -/
def instructions : List Text :=
  purpose ++ rules ++ outputRules ++ examples ++ guidance ++ steps ++ utilities

end PrimitiveSearch.Prompt
