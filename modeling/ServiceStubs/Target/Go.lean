import ServiceStubs.Target.Naming
import ServiceStubs.Target.DocComment
import ServiceStubs.Target.OutputPath
import ServiceStubs.Target.Go.Runtime
import ServiceStubs.Text.Split
import ServiceStubs.Text.WordCase

/-!
# Go clients

All files of an output directory are one package, so they lie side by side and import nothing from
each other. Records are structs with `json` tags; optional fields and parameters are pointers. What
other packages are to see needs a name in upper case: `exportedNames`.
-/

namespace ServiceStubs.Go

/-- Words that cannot name a parameter. -/
def reserved : List String := [
  "break", "case", "chan", "const", "continue", "default", "defer", "else", "fallthrough",
  "for", "func", "go", "goto", "if", "import", "interface", "map", "package", "range",
  "return", "select", "struct", "switch", "type", "var", "any", "bool", "byte", "error",
  "false", "float32", "float64", "int", "int64", "iota", "len", "make", "new", "nil", "panic",
  "string", "true"]

/-- Names that the body of a method refers to besides its parameters. -/
def bodyNames : List String := ["c", "call", "callVoid", "optional"]

/-! ## Types -/

/-- A pointer to a type, unless the type has a nil value already. -/
def pointer (rendered : String) : String :=
  if rendered = "any" ∨ Text.startsWith rendered "*" ∨ Text.startsWith rendered "[]" ∨
      Text.startsWith rendered "map[" then
    rendered
  else "*" ++ rendered

/-- The key type of a map. -/
def keyText : DataType → String
  | .integer => "int64"
  | .double | .float => "float64"
  | .named ref => if ref.kind = .enumeration then ref.name else "string"
  | _ => "string"

/-- The spelling of a type. -/
def typeText : DataType → String
  | .string => "string"
  | .integer => "int64"
  | .double => "float64"
  | .float => "float32"
  | .boolean => "bool"
  | .void => "struct\x7b\x7d"
  | .null | .any => "any"
  | .date => "time.Time"
  | .array item => "[]" ++ typeText item
  | .map key value => "map[" ++ keyText key ++ "]" ++ typeText value
  | .promise result => typeText result
  | .union members =>
    match _h : nullableInner? members with
    | some inner => pointer (typeText inner)
    -- The language has no unions beyond values that may be missing.
    | none => "any"
  | .named ref => ref.name
  | .record _ => "map[string]any"
termination_by t => sizeOf t
decreasing_by
  all_goals first | decreasing_tactic | exact sizeOf_lt_of_nullableInner? _h

/-- A literal in source form. -/
def literalText : Literal → String
  | .string value => Text.quote value false
  | .number text => text
  | .boolean value => boolText value
  | .null => "nil"

/-! ## Exported names -/

/-- A declared name in upper camel case, with `X` in front if it does not begin with a letter. -/
def exportedName (name : String) : String :=
  let upper := Text.upperCamel (safeIdent [] name)
  match upper.toList with
  | c :: _ => if Text.isAlphabetic c then upper else "X" ++ upper
  | [] => "X"

/-- Exported names of one scope; a name that is taken gets `_` behind it. -/
def exportedAfter (taken : List String) : List String → List String
  | [] => []
  | name :: rest =>
    let ident := freshIdent taken (exportedName name)
    ident :: exportedAfter (ident :: taken) rest

/-- The exported names of one scope, in order. -/
def exportedNames (names : List String) : List String :=
  exportedAfter [] names

/-! ## Declarations -/

/-- The struct for a record. -/
def recordText (name : String) (fields : List Field) : String :=
  if fields.isEmpty then "type " ++ name ++ " struct\x7b\x7d"
  else
    "type " ++ name ++ " struct \x7b\n" ++
    String.join ((fields.zip (exportedNames (fields.map (·.name)))).map fun (f, ident) =>
      let type := if f.optional then pointer (typeText f.type) else typeText f.type
      let tag := if f.optional then f.name ++ ",omitempty" else f.name
      "\t" ++ ident ++ " " ++ type ++ " `json:" ++ Text.quote tag false ++ "`\n") ++
    "\x7d"

/-- The type of the values of an enum. -/
def enumValueType (kind : EnumValueKind) (cases : List EnumCase) : String :=
  match kind with
  | .string => "string"
  | .number => if cases.all EnumCase.isInteger then "int64" else "float64"

/-- The type for an enum, with a constant for each case. -/
def enumText (name : String) (kind : EnumValueKind) (cases : List EnumCase) : String :=
  "type " ++ name ++ " " ++ enumValueType kind cases ++
    if cases.isEmpty then "" else
      "\n\nconst (\n" ++
      String.join ((cases.zip (exportedNames (cases.map (·.name)))).map fun (c, ident) =>
        "\t" ++ name ++ ident ++ " " ++ name ++ " = " ++ literalText c.value ++ "\n") ++
      ")"

/-- A declaration without its documentation. -/
def declarationBody (d : Declaration) : Except Error String :=
  match d.body with
  | .record fields => .ok (recordText d.name fields)
  | .enumeration cases =>
    (casesKind d.name none cases).map fun kind => enumText d.name kind cases
  | .alias type => .ok ("type " ++ d.name ++ " = " ++ typeText type)

/-- A declaration behind its documentation. -/
def declarationText (d : Declaration) : Except Error String :=
  (declarationBody d).map (documented d.docs .doubleSlash)

/-! ## Files -/

/-- A parameter list. What may be left out is passed by pointer. -/
def paramsText (params : List Parameter) (idents : List String) : String :=
  commaSeparated ((params.zip idents).map fun (p, ident) =>
    let type := typeText p.type
    ident ++ " " ++ (if p.optional && !Text.startsWith type "*" then "*" ++ type else type))

/-- The arguments that are sent on. -/
def argumentsText (params : List Parameter) (idents : List String) : String :=
  commaSeparated ((params.zip idents).map fun (p, ident) =>
    if p.optional then "optional(" ++ ident ++ ")" else ident)

/-- The import block for the standard packages that generated code refers to. -/
def importBlock (texts : List String) : List String :=
  if texts.any fun t => Text.occursIn "time.Time".toList t.toList then
    ["", "import (", "\t\"time\"", ")"]
  else []

/-- The lines that say that a file is generated. -/
def banner : List String := [
  "// This is an auto generated code. This code should not be modified since the file can be overwritten",
  "// if new rpcgen commands are executed."]

/-- The parameter list of a method. -/
def methodParams (m : Method) : String :=
  paramsText m.params (paramIdents (reserved ++ bodyNames) m.params)

/-- The lines of a method under its exported name. -/
def methodLines (className : String) (m : Method) (name : String) : List String :=
  let returns := m.returns.awaited
  let args := argumentsText m.params (paramIdents (reserved ++ bodyNames) m.params)
  let arguments := "(c.remote, \"" ++ qualifiedName className m.name ++ "\"" ++
    (if args.isEmpty then "" else ", " ++ args) ++ ")"
  let signature := "func (c *" ++ className ++ ") " ++ name ++ "(" ++ methodParams m ++ ") "
  [""] ++
  docLines m.docs .doubleSlash "" ++
  (if returns.isVoid then
    [signature ++ "error \x7b", "\treturn callVoid" ++ arguments]
  else
    [signature ++ "(" ++ typeText returns ++ ", error) \x7b",
      "\treturn call[" ++ typeText returns ++ "]" ++ arguments]) ++
  ["\x7d"]

/-- The text of a client. -/
def clientText (s : Service) (file : FilePlan) (m : Metadata) : Except Error String := do
  let declarations ← file.declarations.mapM declarationText
  let name := s.api.name
  let methods := s.api.exposedMethods
  let exported := exportedNames (methods.map (·.name))
  let signatures := methods.flatMap fun method =>
    [methodParams method, typeText method.returns.awaited]
  return unlines (
    banner ++
    ["", "package " ++ m.packageIdent] ++
    importBlock (declarations ++ signatures) ++
    declarations.flatMap (fun d => ["", d]) ++
    [""] ++
    docLines s.api.docs .doubleSlash "" ++
    ["type " ++ name ++ " struct \x7b",
      "\tremote *Remote",
      "\x7d",
      "",
      "// New" ++ name ++ " returns a client bound to the deployed " ++ name ++ " class.",
      "func New" ++ name ++ "() *" ++ name ++ " \x7b",
      "\treturn &" ++ name ++ "\x7bremote: NewRemote(\"" ++ remoteUrlPlaceholder ++ "\")\x7d",
      "\x7d"] ++
    (methods.zip exported).flatMap fun (method, ident) => methodLines name method ident)

/-- The text of a file that holds only declarations. -/
def modelText (file : FilePlan) (m : Metadata) : Except Error String := do
  let declarations ← file.declarations.mapM declarationText
  return unlines (
    banner ++
    ["", "package " ++ m.packageIdent] ++
    importBlock declarations ++
    declarations.flatMap (fun d => ["", d]))

/-- The Go emitter. Every file name ends in a fixed word, for the tool chain passes over files whose
names end in a platform. -/
def emitter : Emitter where
  target := .go
  reserved := reserved
  clientPath className := Text.snakeCase className ++ "_client.go"
  modelPath modulePath :=
    String.ofList ((safeModulePath modulePath).toList.map fun c => if c = '/' then '_' else c) ++
      "_types.go"
  runtimePath := "remote.go"
  emitsDeclarations := true
  typeText := typeText
  declarationText := declarationText
  clientText := clientText
  modelText := modelText
  runtimeText := goRuntimeText
  companions _ := []

end ServiceStubs.Go
