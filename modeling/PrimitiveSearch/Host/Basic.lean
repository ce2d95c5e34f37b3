import PrimitiveSearch.Host.ProgramRun
import PrimitiveSearch.Host.Reply
import PrimitiveSearch.Path

/-!
# Hosts

A host is all that a program needs of the machine it runs on: a clock, files, other programs, and
documents of a server.  Nothing is assumed of a host; its state is of any type.
-/

set_option autoImplicit false

namespace PrimitiveSearch

/-- What became of a request for a document. -/
inductive Exchange where
  /-- No answer came. -/
  | failed (reason : Text)
  /-- An answer with a status and a body. -/
  | answered (status : Nat) (body : List UInt8)
  deriving DecidableEq, Repr

/-- The services of a machine whose state has type `σ`. -/
structure Host (σ : Type) where
  /-- The time since some fixed moment. -/
  clock : σ → Duration × σ
  /-- The text of a file, or why it cannot be read. -/
  load : Path → σ → Reply (Except Text Text) × σ
  /-- The text of a file or why it cannot be read, in a call that may be given up. -/
  read : Path → σ → Reply (Ending (Except Text Text)) × σ
  /-- Makes a directory with all that is above it, unless its path is empty, and then writes a
  text to a file; or tells why it cannot. -/
  save : (directory file : Path) → Text → σ → Reply (Except Text Unit) × σ
  /-- Runs a program with arguments. -/
  run : Path → List Text → σ → Reply (Ending ProgramRun) × σ
  /-- Requests a document. -/
  fetch : Text → σ → Reply Exchange × σ

/-- A call with the time that it took, if it came to its end. -/
def Host.timed {σ α : Type} (h : Host σ) (call : σ → Reply (Ending α) × σ) (s : σ) :
    Reply (Ending (α × Duration)) × σ :=
  let (before, s) := h.clock s
  let (reply, s) := call s
  let (after, s) := h.clock s
  (reply.map (Ending.map fun a => (a, after.since before)), s)

end PrimitiveSearch
