import PrimitiveSearch.Host.Basic
import PrimitiveSearch.Rehearsal.Cue
import PrimitiveSearch.Rehearsal.FileTree
import PrimitiveSearch.Rehearsal.Script

/-!
# A machine in memory

A machine whose files are kept in memory, whose programs follow scripts, and on which no time
passes.

* `Player` — a program that follows a script and keeps the arguments of its runs.
* `Bench` — the machine.
* `Bench.run` — a run of a program, or the fault that the system reports.
* `Bench.host` — the machine as a host.
-/

set_option autoImplicit false

namespace PrimitiveSearch

/-- A program that follows a script. -/
structure Player where
  /-- Where the program is. -/
  name : NodeName
  script : Script (Cue ProgramRun)
  /-- The arguments of every run so far. -/
  runs : List (List Text)

/-- What a program without instructions does: it ends well at once. -/
def Player.idle : Cue ProgramRun := ⟨some (.ended (some 0) [] []), false⟩

/-- A machine in memory. -/
structure Bench where
  files : FileTree
  workingDirectory : NodeName
  players : List Player
  /-- What becomes of a request for a document. -/
  server : Text → Exchange

namespace Bench

/-- The number of bytes that an argument stays below. -/
def argumentBound : Nat := 131072

/-- What is said of a program's path or argument that holds the character that ends texts for the
system. -/
def holdsEndText : Text := "nul byte found in provided data"

/-- The program at a path, or why there is none.  A path without a slash is looked for among the
installed programs, of which there are none. -/
def player? (b : Bench) (path : Path) : Except FileFault Player :=
  if !path.contains '/' then .error .notFound
  else
    match b.files.locate b.workingDirectory path with
    | .error fault => .error fault
    | .ok (.free _ _) => .error .notFound
    | .ok (.taken name _) =>
      match b.players.find? fun p => p.name == name with
      | some p => .ok p
      | none => .error .denied

/-- The program that a call starts, or why none is started. -/
def starting? (b : Bench) (path : Path) (arguments : List Text) : Except Text Player :=
  if (path :: arguments).any fun t => t.contains '\x00' then .error holdsEndText
  else
    match b.player? path with
    | .error fault => .error fault.message
    | .ok p =>
      if arguments.any fun a => argumentBound ≤ Text.byteLength a then
        .error FileFault.argumentsTooLong.message
      else .ok p

/-- The machine with a program changed. -/
def update (b : Bench) (p : Player) : Bench :=
  { b with players := b.players.map fun q => if q.name == p.name then p else q }

/-- A run of a program. -/
def run (b : Bench) (path : Path) (arguments : List Text) :
    Reply (Ending ProgramRun) × Bench :=
  match b.starting? path arguments with
  | .error reason => (.quiet (.finished (.unstarted reason)), b)
  | .ok p =>
    let (cue, rest) := p.script.next Player.idle
    (cue.reply, b.update { p with script := rest, runs := p.runs ++ [arguments] })

/-- The text of a file, or the fault that the system reports. -/
def load (b : Bench) (path : Path) : Except Text Text :=
  (b.files.readText b.workingDirectory path).mapError FileFault.message

/-- The machine as a host; its files are always read to their end. -/
def host : Host Bench where
  clock b := (Duration.zero, b)
  load path b := (.quiet (b.load path), b)
  read path b := (.quiet (.finished (b.load path)), b)
  save directory file text b :=
    let (files, result) := b.files.save b.workingDirectory directory file text
    (.quiet (result.mapError FileFault.message), { b with files := files })
  run path arguments b := b.run path arguments
  fetch url b := (.quiet (b.server url), b)

end Bench

end PrimitiveSearch
