import PrimitiveSearch.Path
import PrimitiveSearch.Text.Numeral
import PrimitiveSearch.Text.Utf8

/-!
# Files in memory

A tree of directories and files, with the faults that a file system reports.

* `FileTree` — the nodes below the root, each with the names that lead to it.
* `FileTree.locate` — where a path leads.
* `FileTree.read`, `FileTree.write`, `FileTree.makeDirectories` — the operations.
-/

set_option autoImplicit false

namespace PrimitiveSearch

/-! ## Faults -/

/-- Why a path cannot be used. -/
inductive FileFault where
  | notFound
  | argumentsTooLong
  | denied
  | taken
  | notDirectory
  | isDirectory
  | nameTooLong
  /-- The content of a file is no text. -/
  | notText
  /-- The path holds the character that ends a path for the system. -/
  | holdsEnd
  deriving DecidableEq, Repr

/-- A fault of the system with its number. -/
def FileFault.numbered (words : Text) (number : Nat) : Text :=
  words ++ " (os error " ++ Numeral.ofNat number ++ ")"

/-- The words for a fault. -/
def FileFault.message : FileFault → Text
  | notFound => numbered "No such file or directory" 2
  | argumentsTooLong => numbered "Argument list too long" 7
  | denied => numbered "Permission denied" 13
  | taken => numbered "File exists" 17
  | notDirectory => numbered "Not a directory" 20
  | isDirectory => numbered "Is a directory" 21
  | nameTooLong => numbered "File name too long" 36
  | notText => "stream did not contain valid UTF-8"
  | holdsEnd => "file name contained an unexpected NUL byte"

/-! ## Trees -/

/-- A file with its content, or a directory. -/
inductive FileNode where
  | file (content : List UInt8)
  | directory
  deriving DecidableEq, Repr

/-- The names that lead from the root to a node. -/
abbrev NodeName := List Text

/-- A tree of files: all nodes below the root. -/
structure FileTree where
  nodes : List (NodeName × FileNode)
  deriving DecidableEq, Repr

namespace FileTree

/-- The tree with nothing but its root. -/
def empty : FileTree := ⟨[]⟩

/-- The node of a name; the root is a directory. -/
def node? (t : FileTree) (name : NodeName) : Option FileNode :=
  if name.isEmpty then some .directory
  else (t.nodes.find? fun n => n.1 == name).map Prod.snd

/-- A tree with another node of a name. -/
def put (t : FileTree) (name : NodeName) (node : FileNode) : FileTree :=
  if t.nodes.any fun n => n.1 == name then
    ⟨t.nodes.map fun n => if n.1 == name then (name, node) else n⟩
  else ⟨t.nodes ++ [(name, node)]⟩

/-- A tree with a node and all directories above it. -/
def plant (t : FileTree) (name : NodeName) (node : FileNode) : FileTree :=
  let above := (List.range name.length).map name.take
  (above.foldl (fun t n => if (t.node? n).isNone then t.put n .directory else t) t).put name node

/-! ## Paths -/

/-- The greatest number of bytes of a name. -/
def longestName : Nat := 255

/-- The number of bytes that a path stays below. -/
def pathBound : Nat := 4096

/-- Where a path leads. -/
inductive Place where
  /-- To a node. -/
  | taken (name : NodeName) (node : FileNode)
  /-- To a name that is free in a directory; it may be marked as that of a directory. -/
  | free (name : NodeName) (asDirectory : Bool)
  deriving DecidableEq, Repr

/-- Where the pieces of a path lead from a node on. -/
def walk (t : FileTree) (name : NodeName) (node : FileNode) :
    List Text → Except FileFault Place
  | [] => .ok (.taken name node)
  | piece :: rest =>
    match node with
    | .file _ => .error .notDirectory
    | .directory =>
      if piece.isEmpty || piece == ['.'] then walk t name .directory rest
      else if piece == ['.', '.'] then walk t name.dropLast .directory rest
      else if longestName < Text.byteLength piece then .error .nameTooLong
      else
        match t.node? (name ++ [piece]) with
        | some node => walk t (name ++ [piece]) node rest
        | none =>
          if rest.all List.isEmpty then .ok (.free (name ++ [piece]) (!rest.isEmpty))
          else .error .notFound

/-- Where a path leads that is seen from a directory. -/
def locate (t : FileTree) (workingDirectory : NodeName) (path : Path) :
    Except FileFault Place :=
  if path.contains '\x00' then .error .holdsEnd
  else if path.isEmpty then .error .notFound
  else if pathBound ≤ Text.byteLength path then .error .nameTooLong
  else
    t.walk (if Path.isAbsolute path then [] else workingDirectory) .directory (Path.pieces path)

/-! ## Operations -/

/-- The content of a file. -/
def read (t : FileTree) (workingDirectory : NodeName) (path : Path) :
    Except FileFault (List UInt8) :=
  match t.locate workingDirectory path with
  | .error fault => .error fault
  | .ok (.taken _ (.file content)) => .ok content
  | .ok (.taken _ .directory) => .error .isDirectory
  | .ok (.free _ _) => .error .notFound

/-- The text of a file. -/
def readText (t : FileTree) (workingDirectory : NodeName) (path : Path) :
    Except FileFault Text :=
  match t.read workingDirectory path with
  | .error fault => .error fault
  | .ok content =>
    match Text.ofBytes? content with
    | some text => .ok text
    | none => .error .notText

/-- The tree after a file was written. -/
def write (t : FileTree) (workingDirectory : NodeName) (path : Path) (content : List UInt8) :
    Except FileFault FileTree :=
  match t.locate workingDirectory path with
  | .error fault => .error fault
  | .ok (.taken name (.file _)) => .ok (t.put name (.file content))
  | .ok (.taken _ .directory) => .error .isDirectory
  | .ok (.free name asDirectory) =>
    if asDirectory then .error .isDirectory else .ok (t.put name (.file content))

/-- Whether a path leads to a directory. -/
def isDirectory (t : FileTree) (workingDirectory : NodeName) (path : Path) : Bool :=
  match t.locate workingDirectory path with
  | .ok (.taken _ .directory) => true
  | _ => false

/-- Makes one directory. -/
def makeDirectory (t : FileTree) (workingDirectory : NodeName) (path : Path) :
    FileTree × Except FileFault Unit :=
  match t.locate workingDirectory path with
  | .error fault => (t, .error fault)
  | .ok (.taken _ _) => (t, .error .taken)
  | .ok (.free name _) => (t.put name .directory, .ok ())

/-- Makes one directory, unless it is there already. -/
def ensureDirectory (t : FileTree) (workingDirectory : NodeName) (path : Path) :
    FileTree × Except FileFault Unit :=
  match t.makeDirectory workingDirectory path with
  | (made, .ok ()) => (made, .ok ())
  | (_, .error fault) =>
    if t.isDirectory workingDirectory path then (t, .ok ()) else (t, .error fault)

/-- Makes a directory with all that is above it.  Every path above is shorter, so that `fuel` need
not exceed the length of the path. -/
def makeFrom (t : FileTree) (workingDirectory : NodeName) (path : Path) :
    (fuel : Nat) → FileTree × Except FileFault Unit
  | 0 => (t, .error .notFound)
  | fuel + 1 =>
    if path.isEmpty then (t, .ok ())
    else
      match t.ensureDirectory workingDirectory path, Path.parent? path with
      | (_, .error .notFound), some above =>
        match makeFrom t workingDirectory above fuel with
        | (made, .ok ()) => made.ensureDirectory workingDirectory path
        | failed => failed
      | result, _ => result

/-- Makes a directory with all that is above it. -/
def makeDirectories (t : FileTree) (workingDirectory : NodeName) (path : Path) :
    FileTree × Except FileFault Unit :=
  t.makeFrom workingDirectory path (path.length + 1)

/-- Makes a directory with all that is above it and writes a text to a file. -/
def save (t : FileTree) (workingDirectory : NodeName) (directory file : Path) (text : Text) :
    FileTree × Except FileFault Unit :=
  match t.makeDirectories workingDirectory directory with
  | (made, .error fault) => (made, .error fault)
  | (made, .ok ()) =>
    match made.write workingDirectory file (Text.bytes text) with
    | .error fault => (made, .error fault)
    | .ok written => (written, .ok ())

/-- All files below a directory, with their names from there on. -/
def filesBelow (t : FileTree) (above : NodeName) : List (NodeName × List UInt8) :=
  t.nodes.filterMap fun (name, node) =>
    match node with
    | .directory => none
    | .file content =>
      if above.isPrefixOf name then some (name.drop above.length, content) else none

end FileTree

end PrimitiveSearch
