import ServiceStubs.Service
import ServiceStubs.JsonDocument

/-!
# Summaries

A summary tells deployment tools which classes a project has, and for each method how it is exposed
and what types its signature has. Methods that clients do not have are listed too.
-/

namespace ServiceStubs

/-- The version of the summary format. -/
def summaryVersion : String := "2"

/-- The summary of a parameter. -/
def Parameter.summary (p : Parameter) : JsonDocument :=
  .object [("name", .string p.name), ("type", .string p.type.spelling)]

/-- The summary of a method; only scheduled ones tell a schedule. -/
def Method.summary (m : Method) : JsonDocument :=
  .object (
    [("name", .string m.name), ("kind", .string m.exposure.label)] ++
    (m.exposure.schedule?.map fun schedule => ("schedule", JsonDocument.string schedule)).toList ++
    [("params", .array (m.params.map Parameter.summary)),
      ("returnType", .string m.returns.spelling)])

/-- The summary of a class. -/
def Service.summary (s : Service) : JsonDocument :=
  .object [
    ("name", .string s.api.name),
    ("path", .string s.modulePath),
    ("language", .string s.language.label),
    ("methods", .array (s.api.methods.map Method.summary))]

/-- The summary of some services, as text. -/
def summaryText (services : List Service) : String :=
  (JsonDocument.object [
    ("version", .string summaryVersion),
    ("classes", .array (services.map Service.summary))]).pretty 0

end ServiceStubs
