/-!
# Stores of files

What reading sources and writing clients needs of a file system. Operations say whether they succeeded,
and nothing about the reason.
-/

namespace ServiceStubs

/-- What can be at a path. -/
inductive EntryKind where
  | file
  | directory
deriving DecidableEq, Repr

/-- Operations on files, in a monad in which they take effect. -/
class FileStore (m : Type → Type) where
  /-- What is at a path. -/
  kind? : String → m (Option EntryKind)
  /-- The text in a file. Files that hold no text have none. -/
  readText? : String → m (Option String)
  /-- The names in a directory, in no particular order. -/
  names? : String → m (Option (List String))
  /-- Makes a directory and those that it is in, where they are missing. -/
  makeDirectories : String → m Bool
  /-- Writes a text to a file, in place of what it held. -/
  writeText : String → String → m Bool
  /-- Removes a directory with all that is in it. -/
  removeDirectory : String → m Bool
  /-- Moves a file or directory, in place of a file of the same kind or an empty directory. -/
  rename : String → String → m Bool

/-- A store can be used where work may also fail. -/
instance {m : Type → Type} {ε : Type} [Monad m] [FileStore m] : FileStore (ExceptT ε m) where
  kind? path := ExceptT.lift (FileStore.kind? path)
  readText? path := ExceptT.lift (FileStore.readText? path)
  names? path := ExceptT.lift (FileStore.names? path)
  makeDirectories path := ExceptT.lift (FileStore.makeDirectories path)
  writeText path text := ExceptT.lift (FileStore.writeText path text)
  removeDirectory path := ExceptT.lift (FileStore.removeDirectory path)
  rename path target := ExceptT.lift (FileStore.rename path target)

end ServiceStubs
