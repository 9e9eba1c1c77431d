import ServiceStubs.Command
import ServiceStubs.Project
import ServiceStubs.Project.Link

/-!
# Running commands

`runCommandLine` does what a command line asks for, and tells what is to be printed.
-/

namespace ServiceStubs

variable {m : Type → Type} [Monad m] [FileStore m]

/-- What comes of a command line. -/
inductive Outcome where
  /-- The command line asks for nothing that can be done. -/
  | misused
  | failed (failure : Failure)
  | done (output : String)
deriving Repr

/-- The exit code for an outcome. -/
def Outcome.code : Outcome → Nat
  | .done _ => 0
  | .failed _ => 1
  | .misused => 2

/-- What is printed. -/
def Outcome.output : Outcome → String
  | .done output => output
  | _ => ""

/-- The line that tells of a failure. -/
def Outcome.errorLine? : Outcome → Option String
  | .failed failure => some ("Error: " ++ failure.message)
  | _ => none

/-- The outputs for pairs of languages and directories. -/
def pairedOutputs (targets : List Target) (directories : List String) : Except Failure (List OutputTarget) :=
  if targets.length = directories.length then
    .ok (List.zipWith OutputTarget.mk targets directories)
  else .error (.unequalFlags targets.length directories.length)

/-- Does what a command says. The result is what is printed. -/
def Command.run : Command → ExceptT Failure m String
  | .generate config targets directories summary => do
    let overrides ← pairedOutputs targets directories
    let project ← Project.load config
    let report ← project.writeClients overrides summary
    unless report.failures.isEmpty do throw (.failedInputs report.failures.length)
    return ""
  | .summarize config => do
    let project ← Project.load config
    return (← project.summary) ++ "\n"
  | .link url directory => do
    let _ ← linkDirectory directory url
    return ""

/-- Where the configuration is if a command does not say. -/
def standardConfig : String := "rpcgen.yaml"

/-- Does what a command line asks for. -/
def runCommandLine (defaultConfig : String) (words : List String) : m Outcome :=
  match Command.read? defaultConfig words with
  | none => return .misused
  | some command => do
    match ← command.run.run with
    | .ok output => return .done output
    | .error failure => return .failed failure

end ServiceStubs
