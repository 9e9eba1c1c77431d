import ServiceStubs.Files.Path
import ServiceStubs.Project.OutputDirectory

/-!
# Filling in the address of the service

Clients are generated without the address of the deployed service. `linkDirectory` writes it into all files of
a directory.
-/

namespace ServiceStubs

variable {m : Type → Type} [Monad m] [FileStore m]

/-- How deep directories are looked into. Each level adds a separator and a name to the path, so that the path of a
directory this deep has more than 8000 characters. POSIX systems resolve no path of more than 4096 characters, and
where longer ones are allowed, generated files are still no deeper than the source files that they stand for. -/
def deepestDirectory : Nat := 4096

/-- Fills in the address in a file. The result has the path of the file if that has changed it. Files that
hold no text do not concern generated clients. -/
def linkFile (url path : String) : ExceptT Failure m (List String) := do
  match ← FileStore.readText? path with
  | none => return []
  | some content =>
    if Text.contains content remoteUrlPlaceholder then
      demand (.writing path) (FileStore.writeText path (linked content url))
      return [path]
    else return []

/-- Fills in the address in all files of a directory, which lies at most `depth` directories above the
deepest one. -/
def linkBelow (url : String) (depth : Nat) (directory : String) : ExceptT Failure m (List String) :=
  match depth with
  | 0 => throw (.refused (.reading directory))
  | depth + 1 => do
    match ← FileStore.names? directory with
    | none => throw (.refused (.reading directory))
    | some names =>
      let changed ← names.mapM fun name => do
        let path := Files.join directory name
        match ← FileStore.kind? path with
        | some .directory => linkBelow url depth path
        | _ => linkFile url path
      return changed.flatten

/-- Whether segments come before others, or are the same. -/
def segmentsPrecede : List String → List String → Bool
  | [], _ => true
  | _ :: _, [] => false
  | segment :: rest, other :: others =>
    if segment = other then segmentsPrecede rest others else decide (segment < other)

/-- Whether a path comes before another one, segment by segment. -/
def pathPrecedes (path other : String) : Bool :=
  segmentsPrecede (Text.splitOn '/' path) (Text.splitOn '/' other)

/-- Fills in the address in all files of a directory. The result lists the files that this has changed, in
order. -/
def linkDirectory (directory url : String) : ExceptT Failure m (List String) := do
  return (← linkBelow url deepestDirectory directory).mergeSort pathPrecedes

end ServiceStubs
