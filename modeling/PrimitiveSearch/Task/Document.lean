import PrimitiveSearch.Json.Reading
import PrimitiveSearch.Json.Writing
import PrimitiveSearch.Task.Basic

/-!
# Documents of tasks

A task as a document: an object with the lists `train` and `test`, both of them optional; every
pair has an `input` and an `output`.  Members of other names are passed over.

* `Task.read` — the task in a document.
* `Task.document` — the document of a task, without white space.
-/

set_option autoImplicit false

namespace PrimitiveSearch

/-! ## Reading -/

/-- A cell: a whole number of 64 bits. -/
def Grid.cell : Json.Reader Int64 :=
  Json.mapped Int64.ofInt (Json.integer (-2 ^ 63) (2 ^ 63 - 1) "i64")

/-- A list of rows, each a list of cells. -/
def Grid.reader : Json.Reader Grid := Json.list (Json.list Grid.cell)

/-- A pair: both grids are required. -/
def Pair.shape : Json.Shape Pair where
  expected := "struct Example"
  fields :=
    [Json.Field.of "input" true Grid.reader fun g p => { p with input := g },
     Json.Field.of "output" true Grid.reader fun g p => { p with output := g }]
  unknown := .skipped
  initial := ⟨[], []⟩

/-- A task: a list that is not given is empty. -/
def Task.shape : Json.Shape Task where
  expected := "struct Task"
  fields :=
    [Json.Field.of "train" false (Json.list (Json.record Pair.shape)) fun ps t =>
       { t with train := ps },
     Json.Field.of "test" false (Json.list (Json.record Pair.shape)) fun ps t =>
       { t with test := ps }]
  unknown := .skipped
  initial := ⟨[], []⟩

/-- The task in a document. -/
def Task.read (t : Text) : Except Json.Located Task := Json.read (Json.record Task.shape) t

/-! ## Writing -/

/-- A grid without spaces. -/
def Grid.compact (g : Grid) : Text :=
  Json.listText (g.map fun row => Json.listText (row.map Grid.cellText))

/-- A pair as an object; `write` writes the grids. -/
def Pair.documentWith (write : Grid → Text) (p : Pair) : Text :=
  Json.objectText [("input".toList, write p.input), ("output".toList, write p.output)]

/-- A task as an object; `write` writes the grids. -/
def Task.documentWith (write : Grid → Text) (t : Task) : Text :=
  let pairs (ps : List Pair) : Text := Json.listText (ps.map (Pair.documentWith write))
  Json.objectText [("train".toList, pairs t.train), ("test".toList, pairs t.test)]

/-- The document of a task, without white space. -/
def Task.document (t : Task) : Text := t.documentWith Grid.compact

end PrimitiveSearch
