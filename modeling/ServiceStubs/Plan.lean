import ServiceStubs.Plan.Reachable
import ServiceStubs.Target.Emitter

/-!
# Which file holds which declaration

Each service with exposed methods gets a client file. A declaration that such a method leads to goes
into the client file of the service whose source declares it, and otherwise into a file for its
module. Every file imports the names that its contents mention and other files own.
-/

namespace ServiceStubs

/-! ## Owners -/

/-- The client files, still without declarations. -/
def clientFiles (layout : Layout) (services : List Service) : List FilePlan :=
  (services.filter fun s => !s.api.exposedMethods.isEmpty).map fun s =>
    ⟨layout.clientPath s.api.name, some s, [], []⟩

/-- Whether the file is the client of a service with the given source. -/
def FilePlan.isClientOf (file : FilePlan) (modulePath : String) : Bool :=
  file.service.any fun s => s.modulePath == modulePath

/-- The last position in a list whose entry passes the test. -/
def lastIdx? {α : Type} (test : α → Bool) (xs : List α) : Option Nat :=
  (xs.reverse.findIdx? test).map fun i => xs.length - 1 - i

/-- The position of the file that takes a declaration, if there is one yet. -/
def ownerFor? (layout : Layout) (files : List FilePlan) (d : Declaration) : Option Nat :=
  match files.findIdx? fun f => f.isClientOf d.modulePath with
  | some i => some i
  | none => lastIdx? (fun f => f.path == layout.modelPath d.modulePath) files

/-- The files once a declaration has been given its place. -/
def placeDeclaration (layout : Layout) (files : List FilePlan) (d : Declaration) : List FilePlan :=
  match ownerFor? layout files d with
  | some i => files.modify i fun f => { f with declarations := f.declarations ++ [d] }
  | none => files ++ [⟨layout.modelPath d.modulePath, none, [d], []⟩]

/-- The position of the file that owns the declaration of a key. -/
def ownerOf? (files : List FilePlan) (key : DeclKey) : Option Nat :=
  files.findIdx? fun f => f.declarations.any fun d => d.key = key

/-! ## Imports -/

/-- The references in what a file holds: its declarations, then the methods of its client. -/
def FilePlan.references (file : FilePlan) : List TypeRef :=
  file.declarations.flatMap Declaration.references ++
    match file.service with
    | some s => s.exposedReferences
    | none => []

/-- What the file at a position mentions but does not own: the position of the owner and the name. -/
def foreignNames (files : List FilePlan) (index : Nat) (file : FilePlan) : List (Nat × String) :=
  file.references.filterMap fun r =>
    match ownerOf? files r.key with
    | some owner => if owner = index then none else some (owner, r.name)
    | none => none

/-- The imports of the file at a position: owners and names in order of first mention. -/
def importsAt (files : List FilePlan) (index : Nat) (file : FilePlan) : List Import :=
  let foreign := foreignNames files index file
  (foreign.map (·.1)).eraseDups.filterMap fun owner =>
    files[owner]?.map fun f =>
      ⟨f.path, ((foreign.filter fun n => n.1 == owner).map (·.2)).eraseDups⟩

/-! ## The plan -/

/-- The reachable declarations of some services, in order of discovery. Of several declarations with
one key the first counts. -/
def plannedDeclarations (services : List Service) : List Declaration :=
  let table := services.flatMap Service.declarations
  (reachableKeys table services).filterMap (findDeclaration table)

/-- The files that hold the services and their declarations, without imports. -/
def ownedFiles (layout : Layout) (services : List Service) : List FilePlan :=
  (plannedDeclarations services).foldl (placeDeclaration layout) (clientFiles layout services)

/-- The files of a target. It is an error if a reachable enum mixes kinds of values. -/
def plan (layout : Layout) (services : List Service) : Except Error (List FilePlan) := do
  for d in plannedDeclarations services do
    let _ ← d.enumValueKind
  if layout.emitsDeclarations then
    let files := ownedFiles layout services
    return files.mapIdx fun index file => { file with imports := importsAt files index file }
  else
    return clientFiles layout services

end ServiceStubs
