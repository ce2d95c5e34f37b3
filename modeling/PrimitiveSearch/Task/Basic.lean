import PrimitiveSearch.Text.Numeral

/-!
# Tasks

A task shows pairs of grids; a solution turns the input of every pair into its output.

* `Grid`, `Pair`, `Task` — a task with the pairs that are shown and those that are held back.
* `TaskName` — where a task is found.
* `Grid.text` — a grid as nested lists, with a space behind every comma.
-/

set_option autoImplicit false

namespace PrimitiveSearch

/-- A grid of colour numbers, row by row.  Rows may differ in length. -/
abbrev Grid := List (List Int64)

/-- A demonstration: an input and the output that belongs to it. -/
structure Pair where
  input : Grid
  output : Grid
  deriving DecidableEq, Repr

/-- A task. -/
structure Task where
  /-- The pairs that the model is shown. -/
  train : List Pair
  /-- The pairs that are held back. -/
  test : List Pair
  deriving DecidableEq, Repr

/-- Where a task is found: a folder of tasks and the name in it. -/
structure TaskName where
  folder : Text
  id : Text
  deriving DecidableEq, Repr

namespace TaskName

/-- Folder and name, with a slash between them. -/
def text (n : TaskName) : Text := n.folder ++ '/' :: n.id

end TaskName

namespace Grid

/-- A list in brackets, with a comma and a space between neighbours. -/
def bracketed (items : List Text) : Text := '[' :: List.intercalate ", ".toList items ++ [']']

/-- A cell in decimal. -/
def cellText (cell : Int64) : Text := Numeral.ofInt cell.toInt

/-- A row in brackets. -/
def rowText (row : List Int64) : Text := bracketed (row.map cellText)

/-- A grid in brackets. -/
def text (g : Grid) : Text := bracketed (g.map rowText)

end Grid

end PrimitiveSearch
