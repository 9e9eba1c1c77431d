import ServiceStubs.Files.Path
import ServiceStubs.Files.Store
import ServiceStubs.Source.Library

/-!
# Sources of a project

The source files that a service can depend on: those that its imports and exports lead to.

Main definition: `gatherLibrary`.
-/

namespace ServiceStubs

open Source

/-! ## Mentioned files -/

/-- The specifier of the module that a statement mentions. -/
def Source.Item.specifier? : Item → Option String
  | .imports _ specifier => some specifier
  | .exportedNames _ specifier => specifier
  | .exportedAll specifier => some specifier
  | _ => none

/-- For each module that a module mentions, the files that it can be in. -/
def Source.Module.mentioned (m : Module) : List (List String) :=
  (m.items.filterMap Item.specifier?).filterMap fun specifier =>
    if isRelative specifier then some (candidates (joinSpecifier m.path specifier)) else none

/-! ## Gathering -/

variable {m : Type → Type} [Monad m] [FileStore m]

/-- The first file that can be read, as seen from the directory `root`, with its text. -/
def firstReadable (root : String) : List String → m (Option (String × String))
  | [] => return none
  | path :: rest => do
    match ← FileStore.readText? (Files.join root path) with
    | some text => return some (path, text)
    | none => firstReadable root rest

/-- The modules gathered so far with all those to which pending mentions lead. At most `bound` mentions are
followed. -/
def gatherModules (root : String) (bound : Nat) (gathered : List (String × Except Error Module))
    (pending : List (List String)) : m (List (String × Except Error Module)) :=
  match bound, pending with
  | bound + 1, files :: pending => do
    match ← firstReadable root files with
    | none => gatherModules root bound gathered pending
    | some (path, text) =>
      -- A module that is mentioned twice is read once, so cycles of imports end.
      if (gathered.lookup path).isSome then gatherModules root bound gathered pending
      else
        let found := Module.read path text
        let more := match found with
          | .ok m => m.mentioned
          -- A module that cannot be read is kept with its error, which matters only if a type is looked up there.
          | .error _ => []
        gatherModules root bound (gathered ++ [(path, found)]) (pending ++ more)
  | _, _ => return gathered

/-- The greatest number of imports and exports that are followed for one service. Each module is read once, so that
only a service with more import and export statements than this, in all the modules that it leads to, would
need more. Projects are smaller by orders of magnitude. -/
def mostMentions : Nat := 100000

/-- The library in which imports of a source file can be looked up. -/
def gatherLibrary (root path text : String) : m Library := do
  match Module.read path text with
  | .ok found => return .ofModules (← gatherModules root mostMentions [] found.mentioned)
  | .error _ => return .ofModules []

end ServiceStubs
