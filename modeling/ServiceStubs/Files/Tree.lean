import ServiceStubs.Files.Path
import ServiceStubs.Files.Store

/-!
# Trees of files

A file system as a value: what is at each place, and the place from which relative paths start. It is a
`FileStore`, so that whatever works on files can be run on trees.

Main definitions:

* `FileTree.locate?` is the place that a path names;
* the operations of a store on trees, such as `FileTree.writeText?`, have no result where they fail;
* `FileTree.listing` shows all that is below the working directory.
-/

namespace ServiceStubs

/-- What a file holds. -/
inductive Content where
  | text (text : String)
  /-- Bytes that are not the encoding of a text. -/
  | binary (bytes : List UInt8)
deriving DecidableEq, Repr

/-- What is at a place. -/
inductive Entry where
  | file (content : Content)
  | directory
deriving DecidableEq, Repr

/-- A place in a tree: the names on the way to it from the root. -/
abbrev TreePlace := List String

/-- A file system. The root is a directory that is not listed. -/
structure FileTree where
  entries : List (TreePlace × Entry)
  working : TreePlace
deriving Repr

namespace FileTree

/-! ## Places -/

/-- What is at a place. -/
def entry? (t : FileTree) (place : TreePlace) : Option Entry :=
  if place = [] then some .directory else t.entries.lookup place

/-- Whether a directory is at a place. -/
def isDirectory (t : FileTree) (place : TreePlace) : Bool :=
  t.entry? place = some .directory

/-- The place to which segments lead. All but the last must be directories. -/
def walk? (t : FileTree) : TreePlace → List String → Option TreePlace
  | here, [] => some here
  | here, segment :: rest =>
    if t.isDirectory here then
      if segment = "" ∨ segment = "." then t.walk? here rest
      else if segment = ".." then t.walk? here.dropLast rest
      else t.walk? (here ++ [segment]) rest
    else none

/-- Whether a path ends with a separator, so that it can only name a directory. -/
def demandsDirectory (path : String) : Bool :=
  Text.endsWith path "/"

/-- The place that a path names, whether there is something or not. What holds it must be there. -/
def locate? (t : FileTree) (path : String) : Option TreePlace :=
  if path = "" then none
  else
    let segments := ((Text.splitOn '/' path).reverse.dropWhile (· = "")).reverse
    t.walk? (if Files.isAbsolute path then [] else t.working) segments

/-- The place and the entry that a path names. -/
def find? (t : FileTree) (path : String) : Option (TreePlace × Entry) := do
  let place ← t.locate? path
  let entry ← t.entry? place
  if demandsDirectory path && entry ≠ .directory then none
  return (place, entry)

/-! ## Changes of entries -/

/-- The tree with an entry at a place. -/
def put (t : FileTree) (place : TreePlace) (entry : Entry) : FileTree :=
  { t with entries := t.entries.filter (fun e => e.1 ≠ place) ++ [(place, entry)] }

/-- The tree without what is at a place and below it. -/
def cut (t : FileTree) (place : TreePlace) : FileTree :=
  { t with entries := t.entries.filter fun e => !place.isPrefixOf e.1 }

/-- The place at which something is after a move from one place to another one. -/
def moved (place target other : TreePlace) : TreePlace :=
  if place.isPrefixOf other then target ++ other.drop place.length else other

/-- The tree in which what is at a place and below it is somewhere else. A working directory there moves
along. -/
def move (t : FileTree) (place target : TreePlace) : FileTree :=
  { entries := t.entries.map fun e => (moved place target e.1, e.2)
    working := moved place target t.working }

/-- The names of what is directly in a directory. -/
def namesIn (t : FileTree) (place : TreePlace) : List String :=
  t.entries.filterMap fun e =>
    match e.1.getLast? with
    | some name => if e.1.dropLast = place then some name else none
    | none => none

/-! ## Operations -/

/-- What is at a path. -/
def kind? (t : FileTree) (path : String) : Option EntryKind :=
  (t.find? path).map fun
    | (_, .file _) => .file
    | (_, .directory) => .directory

/-- The text in the file at a path. -/
def readText? (t : FileTree) (path : String) : Option String :=
  match t.find? path with
  | some (_, .file (.text text)) => some text
  | _ => none

/-- The names in the directory at a path. -/
def names? (t : FileTree) (path : String) : Option (List String) :=
  match t.find? path with
  | some (place, .directory) => some (t.namesIn place)
  | _ => none

/-- Makes one directory, where nothing is. -/
def makeDirectory? (t : FileTree) (path : String) : Option FileTree := do
  let place ← t.locate? path
  if (t.entry? place).isSome then none
  return t.put place .directory

/-- Makes the directory at a path and those that it is in; whether all are there at the end. What has been
made stays. The first argument bounds their number. -/
def makeDirectoriesFrom (t : FileTree) (bound : Nat) (path : String) : Bool × FileTree :=
  if path = "" ∨ t.kind? path = some .directory then (true, t)
  else
    match bound, Files.parent? path with
    | bound + 1, some parent =>
      let (made, t) := t.makeDirectoriesFrom bound parent
      if made then
        match t.makeDirectory? path with
        | some t => (true, t)
        -- A path with `.` in it can be there once its parent is: then nothing is left to make.
        | none => (t.kind? path = some .directory, t)
      else (false, t)
    | _, _ => (false, t)

/-- Makes the directory at a path and those that it is in. -/
def makeDirectories (t : FileTree) (path : String) : Bool × FileTree :=
  t.makeDirectoriesFrom path.length path

/-- Writes a file at a path. -/
def writeContent? (t : FileTree) (path : String) (content : Content) : Option FileTree := do
  let place ← t.locate? path
  if demandsDirectory path || t.isDirectory place then none
  return t.put place (.file content)

/-- Writes a text to the file at a path. -/
def writeText? (t : FileTree) (path text : String) : Option FileTree :=
  t.writeContent? path (.text text)

/-- Removes the directory at a path. -/
def removeDirectory? (t : FileTree) (path : String) : Option FileTree :=
  match t.find? path with
  | some (place, .directory) => some (t.cut place)
  | _ => none

/-- Removes what is at a path. -/
def remove? (t : FileTree) (path : String) : Option FileTree :=
  (t.find? path).map fun (place, _) => t.cut place

/-- Whether the last segment of a path is a name. What is named only by its relation to something else is
not moved. -/
def endsInName (path : String) : Bool :=
  match (Text.splitOn '/' path).reverse.dropWhile (· = "") with
  | [] => false
  | last :: _ => last ≠ "." && last ≠ ".."

/-- Moves what is at a path to another one. Only an empty directory gives way to a directory, and a file to
a file. -/
def rename? (t : FileTree) (path target : String) : Option FileTree := do
  if !endsInName path || !endsInName target then none
  let (place, entry) ← t.find? path
  let goal ← t.locate? target
  if place = goal then return t
  -- A directory cannot move into itself.
  if place.isPrefixOf goal then none
  match entry, t.entry? goal with
  | .directory, none => return t.move place goal
  | .directory, some .directory =>
    if (t.namesIn goal).isEmpty then return (t.cut goal).move place goal else none
  | .directory, some (.file _) => none
  | .file _, some .directory => none
  | .file _, _ => if demandsDirectory target then none else return (t.cut goal).move place goal

/-! ## Trees as stores -/

/-- An operation that may fail, as a change of state that says whether it succeeded. -/
def attempt (operation : FileTree → Option FileTree) : StateM FileTree Bool := do
  match operation (← get) with
  | some t =>
    set t
    return true
  | none => return false

instance : FileStore (StateM FileTree) where
  kind? path := return (← get).kind? path
  readText? path := return (← get).readText? path
  names? path := return (← get).names? path
  makeDirectories path := fun t => t.makeDirectories path
  writeText path text := attempt fun t => t.writeText? path text
  removeDirectory path := attempt fun t => t.removeDirectory? path
  rename path target := attempt fun t => t.rename? path target

/-! ## Listings -/

/-- The place of an entry as seen from the working directory. Directories end with a separator. -/
def relativeName? (t : FileTree) (e : TreePlace × Entry) : Option String :=
  if t.working.isPrefixOf e.1 ∧ e.1 ≠ t.working then
    let name := "/".intercalate (e.1.drop t.working.length)
    some (if e.2 = .directory then name ++ "/" else name)
  else none

/-- All files and directories below the working directory, in order. -/
def listing (t : FileTree) : List String :=
  (t.entries.filterMap t.relativeName?).mergeSort (· ≤ ·)

end FileTree

end ServiceStubs
