import ServiceStubs.Plan
import ServiceStubs.Plan.Disambiguate
import ServiceStubs.Target.Emitters

/-!
# The files of a target

`generateTarget` writes all files for one target; `generate` does so for several output directories.
-/

namespace ServiceStubs

/-! ## One target -/

/-- The generated file for a planned one. -/
def renderFile (emitter : Emitter) (m : Metadata) (file : FilePlan) : Except Error OutputFile :=
  match file.service with
  | some s => (emitter.clientText s file m).map fun text => ⟨file.path, text, some s.api.name⟩
  | none => (emitter.modelText file m).map fun text => ⟨file.path, text, none⟩

/-- The first path that occurs a second time, given those seen before. -/
def firstRepeated? (seen : List String) : List String → Option String
  | [] => none
  | path :: rest => if path ∈ seen then some path else firstRepeated? (path :: seen) rest

/-- All files of a target, in order of their paths. No two files may have the same path. -/
def generateTarget (services : List Service) (target : Target) (m : Metadata) :
    Except Error (List OutputFile) := do
  let emitter := target.emitter
  let planned ← plan emitter.toLayout (disambiguate services)
  let rendered ← planned.mapM (renderFile emitter m)
  let files := rendered ++ [⟨emitter.runtimePath, emitter.runtimeText m, none⟩]
  let all := files ++ emitter.companions files
  match firstRepeated? [] (all.map (·.path)) with
  | some path => throw (.render target.label (.pathClaimedTwice path))
  | none => return all.mergeSort fun a b => decide (a.path ≤ b.path)

/-! ## Several targets -/

/-- A target and the directory its files go to. -/
structure OutputTarget where
  target : Target
  dir : String
deriving DecidableEq, Repr

/-- What has become of an output target. -/
structure TargetResult where
  output : OutputTarget
  result : Except Error (List OutputFile)

/-- Generates every output target once, in order of first mention. One that fails does not keep the
others from being generated. -/
def generate (services : List Service) (outputs : List OutputTarget) (m : Metadata) :
    List TargetResult :=
  outputs.eraseDups.map fun output => ⟨output, generateTarget services output.target m⟩

end ServiceStubs
