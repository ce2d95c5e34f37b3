import PrimitiveSearch.Proofs.Json.Compound
import PrimitiveSearch.Task.Document

/-!
# Tasks survive their documents

* `Grid.denotes_spaced` — a grid is read from nested lists, with any white space behind the commas.
* `Task.denotes_documentWith` — a task is read from its document when its grids are read.
* `Task.read_document` — so it is from the document without white space, and from the one with
  the grids as they are displayed.
-/

set_option autoImplicit false

namespace PrimitiveSearch

open Json

theorem Grid.denotes_cell (cell : Int64) : Denotes Grid.cell (Grid.cellText cell) cell := by
  have hleast := Int64.le_toInt cell
  have hgreatest := Int64.toInt_lt cell
  have hcell : Denotes (integer (-2 ^ 63) (2 ^ 63 - 1) "i64") (Grid.cellText cell) cell.toInt :=
    denotes_ofInt hleast (by omega) hleast (by omega)
  have h := hcell.mapped Int64.ofInt
  rwa [Int64.ofInt_toInt] at h

/-- Nested lists of cells, each comma with the same white space behind it, are read as the grid. -/
theorem Grid.denotes_spaced {gap : Text} (hgap : ∀ c ∈ gap, isSpace c = true) (g : Grid) :
    Denotes Grid.reader
      ('[' :: List.intercalate (',' :: gap) (g.map fun row =>
        '[' :: List.intercalate (',' :: gap) (row.map Grid.cellText) ++ [']']) ++ [']']) g :=
  denotes_list hgap fun _ _ => denotes_list hgap fun cell _ => Grid.denotes_cell cell

theorem Grid.denotes_compact (g : Grid) : Denotes Grid.reader g.compact g :=
  Grid.denotes_spaced (List.forall_mem_nil _) g

theorem Grid.denotes_text (g : Grid) : Denotes Grid.reader g.text g := by
  have hblank : ∀ c ∈ [' '], isSpace c = true := List.forall_mem_singleton.mpr (by decide)
  exact Grid.denotes_spaced hblank g

section

variable {write : Grid → Text}

theorem Pair.denotes_documentWith (hwrite : ∀ g, Denotes Grid.reader (write g) g) (p : Pair) :
    Denotes (record Pair.shape) (p.documentWith write) p :=
  denotes_record (by decide)
    (.cons (.field _ _ _ (hwrite p.input)) (.cons (.field _ _ _ (hwrite p.output)) .nil))

/-- A task is read from its document, however its grids are written, if they are read. -/
theorem Task.denotes_documentWith (hwrite : ∀ g, Denotes Grid.reader (write g) g) (t : Task) :
    Denotes (record Task.shape) (t.documentWith write) t := by
  have hpairs (ps : List Pair) : Denotes (list (record Pair.shape))
      (listText (ps.map (Pair.documentWith write))) ps :=
    denotes_list (List.forall_mem_nil _) fun p _ => Pair.denotes_documentWith hwrite p
  exact denotes_record (by decide)
    (.cons (.field _ _ _ (hpairs t.train)) (.cons (.field _ _ _ (hpairs t.test)) .nil))

end

/-- **Tasks survive their text forms**: every task is read from its document without white space,
and also when each of its grids is written as it is displayed. -/
theorem Task.read_document (t : Task) :
    Task.read t.document = .ok t ∧ Task.read (t.documentWith Grid.text) = .ok t :=
  ⟨read_of_denotes (t.denotes_documentWith Grid.denotes_compact),
    read_of_denotes (t.denotes_documentWith Grid.denotes_text)⟩

end PrimitiveSearch
