import PrimitiveSearch.Proposal.Basic

/-!
# Finding proposals among lines

A proposal is a line with a declaration, without its semicolon, in front of an opening brace.  Its
body goes on to the first line that ends in a closing brace.  Lines that open nothing are passed
over; a body that is never closed gives nothing.

* `Proposal.opening?` — the head that a line opens, and what follows its brace.
* `Proposal.statements` — the body from its first line on, and the lines after it.
* `Proposal.scan` — all proposals, in order.
-/

set_option autoImplicit false

namespace PrimitiveSearch.Proposal

/-- The wrapper that a line opens: its signature, and the rest of the line after the brace. -/
def opening? (line : Text) : Option (Signature × Text) :=
  (Text.cutAtFirst ['{'] line).bind fun (head, rest) =>
    (Signature.parse? (Text.trim head ++ [';'])).map fun s => (s, Text.trim rest)

/-- The body of a wrapper whose current line is given, after the lines in `sofar`; nothing when
no line closes it.  Also the lines after it. -/
def statements (sofar current : Text) : List Text → Option Text × List Text
  | [] =>
    match Text.beforeLast? '}' current with
    | some last => (some (sofar ++ last), [])
    | none => (none, [])
  | next :: rest =>
    match Text.beforeLast? '}' current with
    | some last => (some (sofar ++ last), next :: rest)
    | none => statements (if current.isEmpty then sofar else sofar ++ current ++ ['\n']) next rest

theorem length_statements_le (sofar current : Text) (lines : List Text) :
    (statements sofar current lines).2.length ≤ lines.length := by
  induction lines generalizing sofar current with
  | nil => unfold statements; split <;> exact Nat.le_refl _
  | cons next rest ih =>
    unfold statements
    split
    · exact Nat.le_refl _
    · exact Nat.le_succ_of_le (ih _ _)

/-- The proposals in a list of trimmed lines. -/
def scan : List Text → List Proposal
  | [] => []
  | line :: rest =>
    match opening? line with
    | none => scan rest
    | some (signature, first) =>
      match (statements [] first rest).1 with
      | none => scan (statements [] first rest).2
      | some body => ⟨signature, Text.trimBack body⟩ :: scan (statements [] first rest).2
  termination_by lines => lines.length
  decreasing_by
    · exact Nat.lt_succ_self _
    all_goals exact Nat.lt_succ_of_le (length_statements_le _ _ _)

end PrimitiveSearch.Proposal
