import PrimitiveSearch.Answer.Basic
import PrimitiveSearch.Proposal.Scan

/-!
# Reading an answer

Models echo their instructions before they answer, so the last line that opens a section counts.
Inside the sections everything is tolerated: lines that name no primitive and proposals out of
form are passed over.  Only a missing marker and a missing or unreadable depth are faults.

* `Answer.afterLast?` — the lines around the last occurrence of a line.
* `Answer.depth?` — the lines before the depth, and the depth.
* `Answer.select` — the catalogue's signatures that lines name, each once.
* `Answer.parse` — the whole text.
-/

set_option autoImplicit false

namespace PrimitiveSearch.Answer

/-- The lines before and after the last occurrence of a line. -/
def afterLast? (marker : Text) : List Text → Option (List Text × List Text)
  | [] => none
  | line :: rest =>
    match afterLast? marker rest with
    | some (before, after) => some (line :: before, after)
    | none => if line = marker then some ([], rest) else none

/-- The lines up to the first that states the depth, that line, and the lines after it. -/
def atDepth? : List Text → Option (List Text × Text × List Text)
  | [] => none
  | line :: rest =>
    if depthMarker.isPrefixOf line then some ([], line, rest)
    else (atDepth? rest).map fun (before, at', after) => (line :: before, at', after)

/-- The text that should be the depth: the second word of the line that states it, or else the
first line after it that is not empty. -/
def depthText? (line : Text) (after : List Text) : Option Text :=
  match (Text.words line)[1]? with
  | some word => some word
  | none => after.find? fun l => !l.isEmpty

/-- The lines of the proposals, and the depth that follows them. -/
def depth? (lines : List Text) : Except Fault (List Text × Nat) :=
  match atDepth? lines with
  | none => .error .missingDepth
  | some (before, line, after) =>
    match depthText? line after with
    | none => .error .missingDepthValue
    | some value =>
      match Numeral.readBelow? depthBound value with
      | none => .error (.invalidDepth value)
      | some depth => .ok (before, depth)

/-- One more signature, unless it is there already. -/
def addNew (sofar : List Signature) (s : Signature) : List Signature :=
  if s ∈ sofar then sofar else sofar ++ [s]

/-- The signatures that lines name by their written form, each once, in order of first mention. -/
def select (c : Catalogue) (lines : List Text) : List Signature :=
  (lines.filterMap fun line => if line.isEmpty then none else c.find? line).foldl addNew []

/-- The lines of the selection, when the proposals open with the given lines before and after:
none if the selection opens again later. -/
def selectionLines (before after : List Text) : List Text :=
  if Part.selection.marker ∈ after then []
  else match afterLast? Part.selection.marker before with
    | some (_, lines) => lines
    | none => []

/-- The answer in a list of trimmed lines. -/
def ofLines (c : Catalogue) (lines : List Text) : Except Fault Answer :=
  if Part.selection.marker ∉ lines then .error (.missingMarker .selection)
  else match afterLast? Part.proposals.marker lines with
    | none => .error (.missingMarker .proposals)
    | some (before, after) =>
      match depth? after with
      | .error fault => .error fault
      | .ok (proposals, depth) =>
        .ok ⟨select c (selectionLines before after), Proposal.scan proposals, depth⟩

/-- The answer in a text. -/
def parse (c : Catalogue) (t : Text) : Except Fault Answer :=
  ofLines c ((Text.lines t).map Text.trim)

end PrimitiveSearch.Answer
