import PrimitiveSearch.Duration

/-!
# What the outside replies

A program talks to the outside by calls.  While a call goes on, somebody may request that all work
be stopped; a call that takes too long is given up.

* `Reply` — a value, and whether a stop was requested meanwhile.
* `Ending` — how a call ended that may be given up.
* `Ending.settle` — the ending that a call can really have under a limit.
-/

set_option autoImplicit false

namespace PrimitiveSearch

/-- What a call yields, and whether a stop was requested while it went on. -/
structure Reply (α : Type) where
  value : α
  stops : Bool
  deriving DecidableEq, Repr

namespace Reply

/-- A reply during which no stop was requested. -/
def quiet {α : Type} (a : α) : Reply α := ⟨a, false⟩

/-- A reply with another value. -/
def map {α β : Type} (f : α → β) (r : Reply α) : Reply β := ⟨f r.value, r.stops⟩

end Reply

/-- How a call ended that may be given up. -/
inductive Ending (α : Type) where
  /-- It came to its end. -/
  | finished (value : α)
  /-- It was given up when its time was over. -/
  | expired
  /-- It was given up for a stop request. -/
  | interrupted
  deriving DecidableEq, Repr

namespace Ending

/-- An ending with another value. -/
def map {α β : Type} (f : α → β) : Ending α → Ending β
  | finished a => finished (f a)
  | expired => expired
  | interrupted => interrupted

/-- The ending of a call under an optional limit, when it is known whether a stop was requested.
Only a call with a limit expires, and only a requested stop interrupts; a call that can do neither
never returns. -/
def settle {α : Type} (limit : Option Duration) (stopRequested : Bool) :
    Ending α → Option (Ending α)
  | finished a => some (finished a)
  | expired =>
    if limit.isSome then some expired
    else if stopRequested then some interrupted
    else none
  | interrupted =>
    if stopRequested then some interrupted
    else if limit.isSome then some expired
    else none

@[simp] theorem settle_finished {α : Type} (limit : Option Duration) (stops : Bool) (a : α) :
    (finished a).settle limit stops = some (finished a) := rfl

end Ending

end PrimitiveSearch
