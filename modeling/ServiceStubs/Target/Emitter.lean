import ServiceStubs.Service
import ServiceStubs.Target

/-!
# What a target has to provide

An `Emitter` turns planned files into text for one target. The planner needs only its `Layout`: where
files go. Generated clients hold `remoteUrlPlaceholder` in place of the address of the deployed
service.
-/

namespace ServiceStubs

/-! ## Files -/

/-- The names one file takes from another. -/
structure Import where
  /-- Output path of the file that owns the names. -/
  file : String
  names : List String
deriving DecidableEq, Repr

/-- An output file and what goes into it. -/
structure FilePlan where
  path : String
  /-- The service a client file is for; `none` for files that hold only declarations. -/
  service : Option Service
  /-- The declarations the file owns, in order of discovery. -/
  declarations : List Declaration
  imports : List Import

/-- A generated file. -/
structure OutputFile where
  path : String
  content : String
  /-- The class a client file was written for. -/
  ownerClass : Option String
deriving DecidableEq, Repr

/-! ## Project data -/

/-- The name and version of the project, as generated files show them. -/
structure Metadata where
  name : String
  version : String
deriving DecidableEq, Repr

/-- The metadata of a project that gives none. -/
def Metadata.standard : Metadata := ⟨"rpcgen", "0.1.0"⟩

/-- The project name reduced to ASCII letters and digits, for the names of packages. -/
def Metadata.packageIdent (m : Metadata) : String :=
  match (m.name.toList.filter Char.isAlphanum).map Char.toLower with
  | [] => "app"
  | c :: rest => if c.isDigit then "app" ++ String.ofList (c :: rest) else String.ofList (c :: rest)

/-- Stands in generated clients for the address of the deployed service. -/
def remoteUrlPlaceholder : String := "%%%RPCGEN_REMOTE_URL%%%"

/-- A generated text in which the address has been filled in. -/
def linked (content url : String) : String :=
  Text.replaceAll remoteUrlPlaceholder url content

/-! ## Emitters -/

/-- Where the files of a target go. -/
structure Layout where
  /-- Path of the client of a class. -/
  clientPath : String → String
  /-- Path of the file for the declarations of a module. -/
  modelPath : String → String
  runtimePath : String
  /-- Whether declarations get files at all. -/
  emitsDeclarations : Bool

/-- A target: its layout, and the text of everything it writes. -/
structure Emitter extends Layout where
  target : Target
  /-- Words that cannot name parameters or properties. -/
  reserved : List String
  typeText : DataType → String
  declarationText : Declaration → Except Error String
  clientText : Service → FilePlan → Metadata → Except Error String
  modelText : FilePlan → Metadata → Except Error String
  runtimeText : Metadata → String
  /-- Files that the paths of the others call for. -/
  companions : List OutputFile → List OutputFile

/-! ## Assembling text -/

/-- Lines as a text; every line is ended. -/
def unlines (lines : List String) : String :=
  String.join (lines.map (· ++ "\n"))

/-- A list with commas. -/
def commaSeparated (parts : List String) : String :=
  ", ".intercalate parts

/-- A type that also admits nothing; a type that does already, or one of `top`, stays. -/
def nullableText (top : List String) (rendered : String) : String :=
  if Text.endsWith rendered "?" ∨ rendered ∈ top then rendered else rendered ++ "?"

end ServiceStubs
