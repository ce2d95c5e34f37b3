import PrimitiveSearch.Rehearsal.Cue
import PrimitiveSearch.Rehearsal.FileTree
import PrimitiveSearch.Rehearsal.Script
import PrimitiveSearch.Search.World

/-!
# Rehearsed collaborators

A world in which model, build and engine follow scripts, files are kept in memory, and no time
passes.

* `Cast` — the scripts, and the files.
* `Cast.world` — the world of a search with these collaborators.
-/

set_option autoImplicit false

namespace PrimitiveSearch

/-- The rehearsed collaborators. -/
structure Cast where
  files : FileTree
  model : Script (Cue (Except Model.Fault Text))
  build : Script (Cue StageResult)
  engine : Script (Cue StageResult)

namespace Cast

/-- What a runner without instructions does: it ends, and not well. -/
def idleModel : Cue (Except Model.Fault Text) := ⟨some (.error (.failed none [])), false⟩

/-- What a stage without instructions does: it passes. -/
def idleStage (s : Stage) : Cue StageResult := ⟨some (.pass s none [] Duration.zero), false⟩

/-- The world of a search with rehearsed collaborators. -/
def world : Search.World Cast where
  clock c := (Duration.zero, c)
  load path c := (.quiet ((c.files.readText [] path).mapError FileFault.message), c)
  save directory file text c :=
    let (files, result) := c.files.save [] directory file text
    (.quiet (result.mapError FileFault.message), { c with files := files })
  complete _ _ c :=
    let (cue, rest) := c.model.next idleModel
    (cue.reply, { c with model := rest })
  build c :=
    let (cue, rest) := c.build.next (idleStage .build)
    (cue.reply, { c with build := rest })
  evaluate _ _ c :=
    let (cue, rest) := c.engine.next (idleStage .evaluate)
    (cue.reply, { c with engine := rest })
  roundOver _ c := (.quiet (), c)

end Cast

end PrimitiveSearch
