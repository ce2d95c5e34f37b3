import PrimitiveSearch.CommandLine.Reading

/-!
# What is said of the options

* `CommandLine.Fault.message` — why a command line is refused.
* `CommandLine.usage` — all options.
-/

set_option autoImplicit false

namespace PrimitiveSearch.CommandLine

/-- A key as it is written. -/
def Key.written (k : Key) : Text := "--" ++ k.name

/-- A flag as it is written. -/
def Flag.written (f : Flag) : Text := "--" ++ f.name

/-- The words for a refused command line. -/
def Fault.message : Fault → Text
  | .unexpected argument => "error: unexpected argument '" ++ argument ++ "' found".toList
  | .missingValue key => "error: a value is required for '" ++ key.written ++ "'".toList
  | .badValue key value =>
    "error: invalid value '" ++ value ++ "' for '".toList ++ key.written ++ "'".toList
  | .repeatedKey key =>
    "error: '" ++ key.written ++ "' cannot be used multiple times".toList
  | .repeatedFlag flag =>
    "error: '" ++ flag.written ++ "' cannot be used multiple times".toList
  | .valueOfFlag flag value =>
    "error: unexpected value '" ++ value ++ "' for '".toList ++ flag.written ++ "'".toList
  | .quietAndVerbose => "error: '--quiet' cannot be used with '--verbose'"

/-- What a key is for. -/
def Key.purpose : Key → Text
  | folder => "the folder of the tasks"
  | task => "a task; may be given several times"
  | model => "the model"
  | sourceRoot => "the engine's source tree"
  | config => "a file with settings"
  | maxIterations => "the greatest number of rounds per task"
  | timeBudget => "the seconds per task after which no round begins"
  | artifactDirectory => "where prompts and answers are kept"
  | replay => "a file with an answer that is used instead of the model's"

/-- What a flag is for. -/
def Flag.purpose : Flag → Text
  | quiet => "less output"
  | verbose => "more output"
  | help => "these lines"

/-- The line on a key. -/
def Key.usageLine (k : Key) : Text := "  " ++ k.written ++ " <value>: ".toList ++ k.purpose

/-- The line on a flag. -/
def Flag.usageLine (f : Flag) : Text :=
  "  -" ++ f.letter :: ", ".toList ++ f.written ++ ": ".toList ++ f.purpose

/-- The lines on all options. -/
def usage : Text :=
  Text.ofLines ("Options:".toList :: Key.all.map Key.usageLine ++ Flag.all.map Flag.usageLine)

end PrimitiveSearch.CommandLine
