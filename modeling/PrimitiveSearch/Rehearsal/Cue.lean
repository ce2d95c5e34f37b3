import PrimitiveSearch.Host.Reply

/-!
# Cues

A cue says what happens on one call.
-/

set_option autoImplicit false

namespace PrimitiveSearch

/-- What happens on one call. -/
structure Cue (α : Type) where
  /-- What the call yields; nothing if it goes on for ever. -/
  value : Option α
  /-- Whether a stop is requested while it goes on. -/
  stops : Bool
  deriving Repr

/-- The reply that a cue gives: a call that goes on for ever ends as soon as a stop is requested,
and otherwise when its time is over. -/
def Cue.reply {α : Type} (c : Cue α) : Reply (Ending α) :=
  ⟨match c.value with
    | some a => .finished a
    | none => .interrupted, c.stops⟩

end PrimitiveSearch
