import ServiceStubs.Exposure
import ServiceStubs.Files.Path
import ServiceStubs.Generate
import ServiceStubs.Project.Failure
import ServiceStubs.Yaml.View

/-!
# Project configuration

A configuration names the project, the classes that become services, and the clients to be written. It is a
YAML document.

Main definitions:

* `ProjectConfig.read` reads a configuration and checks that every scheduled job has a schedule;
* `ClassEntry.exposure` is how the methods of a class may be called;
* `ProjectConfig.outputs` are the clients to be written, each with its directory.
-/

namespace ServiceStubs

open Yaml

/-! ## Entries -/

/-- How methods are invoked, apart from the schedule. -/
inductive ExposureKind where
  | rpc
  | http
  | cron
deriving DecidableEq, Repr

/-- The word for a kind in a configuration. -/
def ExposureKind.label : ExposureKind → String
  | .rpc => "jsonrpc"
  | .http => "http"
  | .cron => "cron"

/-- The kind of a word. -/
def ExposureKind.ofLabel? (word : String) : Option ExposureKind :=
  [ExposureKind.rpc, .http, .cron].find? fun kind => kind.label = word

/-- What a configuration says about a method. -/
structure MethodEntry where
  name : String
  kind : ExposureKind
  schedule : Option String
deriving DecidableEq, Repr

/-- A class that becomes a service. -/
structure ClassEntry where
  /-- Path of the source file as seen from the configuration. -/
  path : String
  /-- The class that is meant if it is not the first one. -/
  className : Option String
  kind : ExposureKind
  schedule : Option String
  methods : List MethodEntry
deriving DecidableEq, Repr

/-- A directory of clients. -/
structure ClientEntry where
  language : String
  path : String
deriving DecidableEq, Repr

/-- The configuration of a project. -/
structure ProjectConfig where
  name : String
  version : String
  classes : List ClassEntry
  clients : List ClientEntry
deriving DecidableEq, Repr

/-! ## Reading -/

/-- Reads a kind of invocation. -/
def ExposureKind.ofNode? (n : Node) : Option ExposureKind :=
  n.choice?.bind ExposureKind.ofLabel?

/-- Reads what is said about a method. -/
def MethodEntry.ofNode? (n : Node) : Option MethodEntry := do
  let fields ← n.fields? ["name", "type", "cronString"]
  return {
    name := ← Node.required? Node.text? "name" fields
    kind := ← Node.optional? ExposureKind.ofNode? .rpc "type" fields
    schedule := ← Node.optional? Node.optionalText? none "cronString" fields }

/-- Reads what is said about a class. -/
def ClassEntry.ofNode? (n : Node) : Option ClassEntry := do
  let fields ← n.fields? ["path", "name", "type", "cronString", "methods"]
  return {
    path := ← Node.required? Node.text? "path" fields
    className := ← Node.optional? Node.optionalText? none "name" fields
    kind := ← Node.optional? ExposureKind.ofNode? .rpc "type" fields
    schedule := ← Node.optional? Node.optionalText? none "cronString" fields
    methods := ← Node.optional? (Node.list? MethodEntry.ofNode?) [] "methods" fields }

/-- Reads what is said about a directory of clients. -/
def ClientEntry.ofNode? (n : Node) : Option ClientEntry := do
  let fields ← n.fields? ["language", "path"]
  return {
    language := ← Node.required? Node.text? "language" fields
    path := ← Node.required? Node.text? "path" fields }

/-- Reads a configuration. -/
def ProjectConfig.ofNode? (n : Node) : Option ProjectConfig := do
  let fields ← n.fields? ["name", "version", "classes", "sdk"]
  return {
    name := ← Node.required? Node.text? "name" fields
    version := ← Node.optional? Node.text? Metadata.standard.version "version" fields
    classes := ← Node.optional? (Node.list? ClassEntry.ofNode?) [] "classes" fields
    clients := ← Node.optional? (Node.list? ClientEntry.ofNode?) [] "sdk" fields }

/-! ## Exposure -/

/-- The exposure of a kind. Only scheduled jobs need a schedule; they are named by `job` if it is missing. -/
def ExposureKind.exposure (kind : ExposureKind) (schedule : Option String) (job : String) :
    Except Failure Exposure :=
  match kind, schedule with
  | .rpc, _ => .ok .rpc
  | .http, _ => .ok .http
  | .cron, some schedule => .ok (.cron schedule)
  | .cron, none => .error (.missingSchedule job)

/-- How the methods of a class may be called. Of two entries for one method the later one counts. -/
def ClassEntry.exposure (c : ClassEntry) : Except Failure ClassExposure := do
  let kind ← c.kind.exposure c.schedule c.path
  let methods ← c.methods.mapM fun m => do
    return (m.name, ← m.kind.exposure m.schedule (c.path ++ "#" ++ m.name))
  return ⟨kind, sortedTable methods⟩

/-- Reads the text of a configuration. -/
def ProjectConfig.read (text : String) : Except Failure ProjectConfig :=
  match (Node.read? text).bind ProjectConfig.ofNode? with
  | none => .error .invalidConfig
  | some config => do
    config.classes.forM fun c => discard c.exposure
    return config

/-! ## What is to be written -/

/-- What generated clients tell about the project. -/
def ProjectConfig.metadata (config : ProjectConfig) : Metadata :=
  ⟨config.name, config.version⟩

/-- The output of an entry, for a project in the directory `root`. -/
def ClientEntry.output (root : String) (c : ClientEntry) : Except Failure OutputTarget :=
  match Target.ofName c.language with
  | .ok target => .ok ⟨target, Files.join root c.path⟩
  | .error e => .error (.during (.clientEntry c.path) (.error e))

/-- The outputs of a project in the directory `root`, one for each entry. -/
def ProjectConfig.outputs (config : ProjectConfig) (root : String) : List (Except Failure OutputTarget) :=
  config.clients.map (ClientEntry.output root)

end ServiceStubs
