import ServiceStubs.Files.Path
import ServiceStubs.Files.Store
import ServiceStubs.Project.Failure
import ServiceStubs.Target.Emitter

/-!
# Output directories

A directory of clients is replaced as a whole. All files are first written to a directory beside it, so that
what was there before stays in place until the new files are complete.

Main definition: `replaceDirectory`.
-/

namespace ServiceStubs

variable {m : Type → Type} [Monad m] [FileStore m]

/-- Goes on if an operation has succeeded. -/
def demand (activity : Activity) (operation : ExceptT Failure m Bool) : ExceptT Failure m Unit := do
  unless ← operation do throw (.refused activity)

/-- Goes on with a first operation; if it fails, undoes it before the failure is passed on. -/
def orUndo (operation : ExceptT Failure m Unit) (undo : ExceptT Failure m Unit) : ExceptT Failure m Unit :=
  tryCatch operation fun failure => do
    undo
    throw failure

/-- Whether something is at a path. -/
def isPresent (path : String) : ExceptT Failure m Bool :=
  return (← FileStore.kind? path).isSome

/-! ## Directories beside others -/

/-- The path of a hidden directory beside another one, which must have a name. -/
def hiddenSibling (directory suffix : String) : ExceptT Failure m String :=
  match Files.fileName? directory with
  | some name => return Files.sibling directory ("." ++ name ++ suffix)
  | none => throw (.noDirectoryName directory)

/-- Makes the directories in which a path lies. -/
def makeParents (path : String) : ExceptT Failure m Unit :=
  match Files.parent? path with
  | some parent =>
    if parent = "" then return ()
    else demand (.creating parent) (FileStore.makeDirectories parent)
  | none => return ()

/-- Removes a directory, if it is there. -/
def removeIfPresent (directory : String) : ExceptT Failure m Unit := do
  if ← isPresent directory then demand (.removing directory) (FileStore.removeDirectory directory)

/-! ## Replacing -/

/-- Writes a file into a directory. -/
def writeInto (directory : String) (file : OutputFile) : ExceptT Failure m Unit := do
  let path := Files.join directory file.path
  makeParents path
  demand (.writing path) (FileStore.writeText path file.content)

/-- Makes a directory that holds some files. If a file cannot be written, there is no directory. -/
def writeDirectory (directory : String) (files : List OutputFile) : ExceptT Failure m Unit := do
  demand (.creating directory) (FileStore.makeDirectories directory)
  orUndo (files.forM (writeInto directory)) do discard (FileStore.removeDirectory directory)

/-- Replaces a directory by one that holds exactly the given files. As long as not all files are written,
what was there before stays where it is. -/
def replaceDirectory (directory : String) (files : List OutputFile) : ExceptT Failure m Unit := do
  makeParents directory
  let staging ← hiddenSibling directory ".rpcgen-staging"
  let backup ← hiddenSibling directory ".rpcgen-old"
  removeIfPresent staging
  removeIfPresent backup
  writeDirectory staging files
  if ← isPresent directory then
    demand (.movingAside directory) (FileStore.rename directory backup)
  orUndo (demand (.movingInto directory) (FileStore.rename staging directory)) do
    if ← isPresent backup then discard (FileStore.rename backup directory)
  removeIfPresent backup

end ServiceStubs
