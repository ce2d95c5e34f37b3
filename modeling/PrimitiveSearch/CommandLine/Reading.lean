import PrimitiveSearch.CommandLine.Options

/-!
# Reading a command line

Arguments are read one by one.  A name follows two dashes, and its value is the next argument or
follows an equals sign; the letters of flags follow one dash, any number of them together.  A value
in an argument of its own does not start with a dash, except a dash alone.  There are no other
arguments.

* `Request` — what a command line asks for.
* `CommandLine.read` — what a list of arguments asks for.
-/

set_option autoImplicit false

namespace PrimitiveSearch.CommandLine

/-- What a command line asks for. -/
inductive Request where
  /-- To be told of the options. -/
  | help
  /-- A session. -/
  | session (options : Options)
  deriving DecidableEq, Repr

/-- A single argument, by its form. -/
inductive Argument where
  /-- A name, perhaps with a value. -/
  | named (name : Text) (value : Option Text)
  /-- Letters of flags. -/
  | letters (letters : Text)
  /-- Two dashes alone; only plain arguments may follow. -/
  | mark
  /-- Anything else. -/
  | plain
  deriving DecidableEq, Repr

/-- The name and the value around the first equals sign. -/
def nameAndValue (t : Text) : Argument :=
  match Text.cutAtFirst ['='] t with
  | some (name, value) => .named name (some value)
  | none => .named t none

/-- An argument by its form. -/
def Argument.of : Text → Argument
  | ['-', '-'] => .mark
  | '-' :: '-' :: rest => nameAndValue rest
  | '-' :: c :: rest => .letters (c :: rest)
  | _ => .plain

/-- Raises a flag; that of help ends the reading. -/
def Flag.raise (f : Flag) (o : Options) : Except Fault Request :=
  match f with
  | .help => .ok .help
  | .quiet =>
    if o.quiet then .error (.repeatedFlag f) else .ok (.session { o with quiet := true })
  | .verbose =>
    if o.verbose then .error (.repeatedFlag f) else .ok (.session { o with verbose := true })

/-- Goes on with the options of a request, unless it is one for help. -/
def Request.andThen (r : Except Fault Request) (next : Options → Except Fault Request) :
    Except Fault Request :=
  match r with
  | .error fault => .error fault
  | .ok .help => .ok .help
  | .ok (.session o) => next o

/-- Raises the flags of letters, from left to right. -/
def raiseAll : Text → Options → Except Fault Request
  | [], o => .ok (.session o)
  | c :: rest, o =>
    match Flag.lettered? c with
    | none => .error (.unexpected ['-', c])
    | some flag => Request.andThen (flag.raise o) (raiseAll rest)

/-- What the options ask for when all arguments are read. -/
def conclude (o : Options) : Except Fault Request :=
  if o.quiet && o.verbose then .error .quietAndVerbose else .ok (.session o)

/-- What arguments ask for that follow others with the given options. -/
def readFrom : List Text → Options → Except Fault Request
  | [], o => conclude o
  | argument :: rest, o =>
    match Argument.of argument with
    | .plain => .error (.unexpected argument)
    | .mark =>
      match rest with
      | [] => conclude o
      | next :: _ => .error (.unexpected next)
    | .letters letters => Request.andThen (raiseAll letters o) (readFrom rest)
    | .named name value =>
      match Key.named? name, Flag.named? name, value with
      | some key, _, some value =>
        match key.accept value o with
        | .error fault => .error fault
        | .ok o => readFrom rest o
      | some key, _, none =>
        match rest with
        | [] => .error (.missingValue key)
        | value :: rest =>
          if Argument.of value = .plain then
            match key.accept value o with
            | .error fault => .error fault
            | .ok o => readFrom rest o
          else .error (.missingValue key)
      | none, some flag, some value => .error (.valueOfFlag flag value)
      | none, some flag, none => Request.andThen (flag.raise o) (readFrom rest)
      | none, none, _ => .error (.unexpected argument)

/-- What a command line asks for. -/
def read (arguments : List Text) : Except Fault Request := readFrom arguments Options.none

end PrimitiveSearch.CommandLine
