import ServiceStubs.Resolution.Signature

/-!
# From source files to services

`buildService` reads a source file, picks the class that it exports and resolves the types that its
methods mention.
-/

namespace ServiceStubs

open Source Resolution

/-- What is to be built: a source file, and the class that is wanted if it is not the first one. -/
structure BuildRequest where
  path : String
  text : String
  className : Option String

/-- The class that a request asks for. -/
def BuildRequest.wantedClass? (r : BuildRequest) (m : Module) : Option ExportedClass :=
  match r.className with
  | some name => m.exportedClasses.find? fun c => c.name = name
  | none => m.exportedClasses.head?

/-- The service of a class in a module that has been read; `exposure` decides about each method of each
class. -/
def classService (library : Library) (exposure : String → String → Exposure) (m : Module)
    (c : ExportedClass) : Except Error Service := do
  let methods ← candidates m.path c.name (exposure c.name) c.body.members
  let (result, table) := (classMethods (library.insert m) m c methods).run.run []
  return ⟨m.language, m.modulePath, ⟨c.name, ← result, c.docs⟩, table.declarations⟩

/-- The service that a request asks for. Imports are looked up in the library; `exposure` tells how the
methods of a class may be called. -/
def buildService (library : Library) (exposure : String → ClassExposure) (r : BuildRequest) :
    Except Error Service := do
  let m ← Module.read r.path r.text
  match r.wantedClass? m with
  | some c => classService library (fun name => (exposure name).method) m c
  | none => throw (.noExposedClass r.path)

end ServiceStubs
