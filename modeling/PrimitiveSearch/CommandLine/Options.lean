import PrimitiveSearch.Settings.Basic
import PrimitiveSearch.Text.Numeral

/-!
# Options of the command line

* `Options` — what was asked for on the command line.
* `Key` — the options that take a value; `Key.accept` puts a value in its place.
* `Flag` — the options without a value.
* `Options.override` — settings after a look at the options.
-/

set_option autoImplicit false

namespace PrimitiveSearch.CommandLine

/-- What was asked for on the command line. -/
structure Options where
  folder : Option Text
  /-- The tasks, in the order in which they were named. -/
  ids : List Text
  model : Option Text
  sourceRoot : Option Path
  /-- The file with the settings. -/
  settings : Option Path
  maxIterations : Option UInt32
  timeBudgetSeconds : Option UInt64
  artifactDirectory : Option Path
  /-- A file with an answer that is used instead of the model's. -/
  kept : Option Path
  quiet : Bool
  verbose : Bool
  deriving DecidableEq, Repr

/-- Nothing was asked for. -/
def Options.none : Options where
  folder := .none
  ids := []
  model := .none
  sourceRoot := .none
  settings := .none
  maxIterations := .none
  timeBudgetSeconds := .none
  artifactDirectory := .none
  kept := .none
  quiet := false
  verbose := false

/-- The options that take a value. -/
inductive Key where
  | folder
  | task
  | model
  | sourceRoot
  | config
  | maxIterations
  | timeBudget
  | artifactDirectory
  | replay
  deriving DecidableEq, Repr

/-- The options without a value. -/
inductive Flag where
  | quiet
  | verbose
  | help
  deriving DecidableEq, Repr

/-- Why a command line is refused. -/
inductive Fault where
  /-- An argument that means nothing. -/
  | unexpected (argument : Text)
  /-- A key without its value. -/
  | missingValue (key : Key)
  /-- A value that a key cannot have. -/
  | badValue (key : Key) (value : Text)
  /-- A key that is given twice. -/
  | repeatedKey (key : Key)
  /-- A flag that is given twice. -/
  | repeatedFlag (flag : Flag)
  /-- A flag with a value. -/
  | valueOfFlag (flag : Flag) (value : Text)
  /-- Less and more output are asked for at once. -/
  | quietAndVerbose
  deriving DecidableEq, Repr

namespace Key

/-- All keys. -/
def all : List Key :=
  [folder, task, model, sourceRoot, config, maxIterations, timeBudget, artifactDirectory, replay]

/-- The name of a key. -/
def name : Key → Text
  | folder => "folder"
  | task => "task"
  | model => "model"
  | sourceRoot => "source-root"
  | config => "config"
  | maxIterations => "max-iterations"
  | timeBudget => "time-budget-secs"
  | artifactDirectory => "artifact-dir"
  | replay => "replay"

/-- The key of a name. -/
def named? (t : Text) : Option Key := all.find? fun k => k.name == t

/-- A path; the empty text is none. -/
def pathOf? (t : Text) : Option Path := if t.isEmpty then none else some t

/-- A number of 32 bits; a minus sign may stand before zero. -/
def word32Of? : Text → Option UInt32
  | '-' :: zeros => if !zeros.isEmpty && zeros.all (· == '0') then some 0 else none
  | t => (Numeral.readBelow? (2 ^ 32) t).map UInt32.ofNat

/-- A number of 64 bits. -/
def word64Of? (t : Text) : Option UInt64 := (Numeral.readBelow? (2 ^ 64) t).map UInt64.ofNat

/-- A value for a key that may be given once. -/
def once {α : Type} (k : Key) (old : Option α) (value : Text) (new : Option α) :
    Except Fault (Option α) :=
  match old, new with
  | _, none => .error (.badValue k value)
  | some _, some _ => .error (.repeatedKey k)
  | none, some a => .ok (some a)

/-- The options with a value for a key. -/
def accept (k : Key) (value : Text) (o : Options) : Except Fault Options :=
  match k with
  | folder => (once k o.folder value (some value)).map fun v => { o with folder := v }
  | task => .ok { o with ids := o.ids ++ [value] }
  | model => (once k o.model value (some value)).map fun v => { o with model := v }
  | sourceRoot =>
    (once k o.sourceRoot value (pathOf? value)).map fun v => { o with sourceRoot := v }
  | config => (once k o.settings value (pathOf? value)).map fun v => { o with settings := v }
  | maxIterations =>
    (once k o.maxIterations value (word32Of? value)).map fun v => { o with maxIterations := v }
  | timeBudget =>
    (once k o.timeBudgetSeconds value (word64Of? value)).map fun v =>
      { o with timeBudgetSeconds := v }
  | artifactDirectory =>
    (once k o.artifactDirectory value (pathOf? value)).map fun v =>
      { o with artifactDirectory := v }
  | replay => (once k o.kept value (pathOf? value)).map fun v => { o with kept := v }

end Key

namespace Flag

/-- All flags. -/
def all : List Flag := [quiet, verbose, help]

/-- The name of a flag. -/
def name : Flag → Text
  | quiet => "quiet"
  | verbose => "verbose"
  | help => "help"

/-- The letter of a flag. -/
def letter : Flag → Char
  | quiet => 'q'
  | verbose => 'v'
  | help => 'h'

/-- The flag of a name. -/
def named? (t : Text) : Option Flag := all.find? fun f => f.name == t

/-- The flag of a letter. -/
def lettered? (c : Char) : Option Flag := all.find? fun f => f.letter == c

end Flag

/-- Settings after a look at the options. -/
def Options.override (o : Options) (s : Settings) : Settings :=
  { s with
    model := o.model.or s.model
    sourceRoot := o.sourceRoot.or s.sourceRoot
    maxIterations := o.maxIterations.or s.maxIterations
    timeBudgetSeconds := o.timeBudgetSeconds.or s.timeBudgetSeconds
    artifactDirectory := o.artifactDirectory.or s.artifactDirectory }

end PrimitiveSearch.CommandLine
