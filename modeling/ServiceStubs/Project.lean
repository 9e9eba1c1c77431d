import ServiceStubs.Build
import ServiceStubs.Project.Config
import ServiceStubs.Project.OutputDirectory
import ServiceStubs.Project.Sources
import ServiceStubs.Summary

/-!
# Projects

A project is a configuration and the directory from which its sources are read. One class or client that
fails does not keep the others from being built and written.

Main definitions:

* `Project.load` reads the configuration of a project;
* `Project.services` builds the services of all classes;
* `Project.writeClients` writes all clients, `Project.summary` tells what there is to call.
-/

namespace ServiceStubs

/-- A project whose configuration has been read. -/
structure Project where
  config : ProjectConfig
  /-- The directory as seen from which the paths of sources are meant. -/
  root : String

variable {m : Type → Type} [Monad m] [FileStore m]

/-! ## Loading -/

/-- The directory of the project with a configuration at `path`. -/
def projectRoot (path : String) : String :=
  match Files.parent? path with
  | some parent => if parent = "" then "." else parent
  | none => "."

/-- Loads the project whose configuration is at `path`. -/
def Project.load (path : String) : ExceptT Failure m Project := do
  match ← FileStore.readText? path with
  | none => throw (.refused (.readingConfig path))
  | some text =>
    let config ← Failure.within (.inConfig path) (ProjectConfig.read text)
    return ⟨config, projectRoot path⟩

/-! ## Building -/

/-- Builds the service of a class. -/
def Project.service (p : Project) (c : ClassEntry) : ExceptT Failure m Service := do
  let exposure ← c.exposure
  match ← FileStore.readText? (Files.join p.root c.path) with
  | none => throw (.error (.sourceNotFound c.path))
  | some text =>
    let library ← gatherLibrary p.root c.path text
    match buildService library (fun _ => exposure) ⟨c.path, text, c.className⟩ with
    | .ok service => return service
    | .error e => throw (.error e)

/-- What has become of each class. -/
def Project.services (p : Project) : m (List (Except Failure Service)) :=
  p.config.classes.mapM fun c => (p.service c).run

/-- The results of those that succeeded. -/
def successes {ε α : Type} (results : List (Except ε α)) : List α :=
  results.filterMap Except.toOption

/-- The failures of those that failed. -/
def failures {ε α : Type} (results : List (Except ε α)) : List ε :=
  results.filterMap fun
    | .ok _ => none
    | .error e => some e

/-! ## Writing -/

/-- What has become of the clients. -/
structure Report where
  /-- The directories that have been written, with the numbers of their files. -/
  written : List (String × Nat)
  failures : List Failure
deriving Repr

/-- Writes the files of a target to its directory. -/
def TargetResult.write (r : TargetResult) : ExceptT Failure m (String × Nat) := do
  let activity := Activity.writingClients r.output.target.label r.output.dir
  match r.result with
  | .error e => throw (.during activity (.error e))
  | .ok files =>
    Failure.within activity (← ExceptT.lift (replaceDirectory r.output.dir files).run)
    return (r.output.dir, files.length)

/-- Writes clients: those of the configuration, or others if `overrides` lists any. If a path is given for
it, a summary of the services is written too. -/
def Project.writeClients (p : Project) (overrides : List OutputTarget) (summaryPath : Option String) :
    ExceptT Failure m Report := do
  let outputs := if overrides.isEmpty then p.config.outputs p.root else overrides.map .ok
  let built ← ExceptT.lift p.services
  let generated := generate (successes built) (successes outputs) p.config.metadata
  let written ← ExceptT.lift (generated.mapM fun r => r.write.run)
  if let some path := summaryPath then
    demand (.writing path) (FileStore.writeText path (summaryText (successes built)))
  return ⟨successes written, failures outputs ++ failures built ++ failures written⟩

/-- The summary of all services. There is none if one of them fails. -/
def Project.summary (p : Project) : ExceptT Failure m String := do
  let built ← ExceptT.lift p.services
  match failures built with
  | failure :: _ => throw failure
  | [] => return summaryText (successes built)

end ServiceStubs
