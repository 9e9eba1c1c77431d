import ServiceStubs.Target.Naming
import ServiceStubs.Target.DocComment
import ServiceStubs.Target.OutputPath
import ServiceStubs.Target.TypeScript.Runtime
import ServiceStubs.Text.WordCase

/-!
# TypeScript clients

Records become object types, enums become enums, and unions stay unions. Every method returns a
promise of what the service's method returns.
-/

namespace ServiceStubs.TypeScript

/-- Words that cannot name a parameter. -/
def reserved : List String := [
  "await", "break", "case", "catch", "class", "const", "continue", "debugger", "default",
  "delete", "do", "else", "enum", "export", "extends", "false", "finally", "for", "function",
  "if", "implements", "import", "in", "instanceof", "interface", "let", "new", "null",
  "package", "private", "protected", "public", "return", "static", "super", "switch", "this",
  "throw", "true", "try", "typeof", "var", "void", "while", "with", "yield"]

/-! ## Types -/

/-- Whether a property name needs no quotation marks. -/
def isPlainName (name : String) : Bool :=
  match name.toList with
  | [] => false
  | c :: rest =>
    (Text.isAlphabetic c || c == '_' || c == '$') &&
      rest.all fun d => Text.isAlphanumeric d || d == '_' || d == '$'

/-- A property name as declared, in quotation marks where it is no identifier. -/
def propertyName (name : String) : String :=
  if isPlainName name then name else Text.quote name false

/-- The key type of a `Record`, which has to be like a string. -/
def keyText : DataType → String
  | .string => "string"
  | .integer | .double | .float => "number"
  | .named ref => if ref.kind = .enumeration then ref.name else "string"
  | _ => "string"

/-- The spelling of a type. -/
def typeText : DataType → String
  | .string => "string"
  | .integer | .double | .float => "number"
  | .boolean => "boolean"
  | .void => "void"
  | .null => "null"
  | .any => "any"
  | .date => "Date"
  | .array (.union (first :: second :: rest)) =>
    "(" ++ typeText (.union (first :: second :: rest)) ++ ")[]"
  | .array item => typeText item ++ "[]"
  | .map key value => "Record<" ++ keyText key ++ ", " ++ typeText value ++ ">"
  | .promise result => "Promise<" ++ typeText result ++ ">"
  | .union [] => "any"
  | .union members => " | ".intercalate (members.map fun m => typeText m)
  | .named ref => ref.name
  | .record [] => "\x7b\x7d"
  | .record fields =>
    "\x7b " ++
      "; ".intercalate (fields.map fun f =>
        propertyName f.name ++ (if f.optional then "?" else "") ++ ": " ++ typeText f.type) ++
      " \x7d"
termination_by t => sizeOf t
decreasing_by
  all_goals first | decreasing_tactic | exact Field.sizeOf_type_lt_of_mem ‹_ ∈ _›

/-- A literal in source form. -/
def literalText : Literal → String
  | .string value => Text.quote value false
  | .number text => text
  | .boolean value => boolText value
  | .null => "null"

/-! ## Declarations -/

/-- A declaration without its documentation. -/
def declarationBody (d : Declaration) : Except Error String :=
  match d.body with
  | .record fields =>
    .ok ("export type " ++ d.name ++ " = \x7b\n" ++
      String.join (fields.map fun f =>
        "  " ++ propertyName f.name ++ (if f.optional then "?" else "") ++ ": " ++
          typeText f.type ++ ";\n") ++
      "\x7d;")
  | .enumeration cases =>
    d.enumValueKind.map fun _ =>
      "export enum " ++ d.name ++ " \x7b\n" ++
        String.join (cases.map fun c =>
          "  " ++ propertyName c.name ++ " = " ++ literalText c.value ++ ",\n") ++
        "\x7d"
  | .alias type => .ok ("export type " ++ d.name ++ " = " ++ typeText type ++ ";")

/-- A declaration behind its documentation. -/
def declarationText (d : Declaration) : Except Error String :=
  (declarationBody d).map (documented d.docs .block)

/-! ## Files -/

/-- What a file writes to import from another: the relative path without its extension. -/
def importSpecifier (source target : String) : String :=
  let path := relativePath source target
  (Text.stripEnd? path ".ts").getD path

/-- A parameter with its type, and its default if it has one. -/
def paramText (p : Parameter) (ident : String) : String :=
  match p.defaultValue with
  | some value => ident ++ ": " ++ typeText p.type ++ " = " ++ literalText value
  | none => ident ++ (if p.optional then "?" else "") ++ ": " ++ typeText p.type

/-- The lines that say that a file is generated. -/
def banner : List String := [
  "/**",
  " * This is an auto generated code. This code should not be modified since the file can be overwritten",
  " * if new rpcgen commands are executed.",
  " */"]

/-- The statement that imports from one file. -/
def importLine (path : String) (i : Import) : String :=
  "import \x7b " ++ commaSeparated i.names ++ " \x7d from \"" ++ importSpecifier path i.file ++ "\";"

/-- Arguments of a call behind the name of the method. -/
def furtherArguments (args : String) : String :=
  if args.isEmpty then "" else ", " ++ args

/-- The lines of a method. -/
def methodLines (className : String) (m : Method) : List String :=
  let returns := m.returns.awaited
  let idents := paramIdents reserved m.params
  let params := commaSeparated ((m.params.zip idents).map fun (p, ident) => paramText p ident)
  docLines m.docs .block "  " ++ [
    "  static async " ++ m.name ++ "(" ++ params ++ "): Promise<" ++ typeText returns ++ "> \x7b",
    "    " ++ (if returns.isVoid then "" else "return ") ++ "await " ++ className ++
      ".remote.call(\"" ++ qualifiedName className m.name ++ "\"" ++
      furtherArguments (commaSeparated idents) ++ ");",
    "  \x7d"]

/-- The text of a client. -/
def clientText (s : Service) (file : FilePlan) (_ : Metadata) : Except Error String := do
  let declarations ← file.declarations.mapM declarationText
  return unlines (
    banner ++
    ["", "import \x7b Remote \x7d from \"" ++ importSpecifier file.path "remote.ts" ++ "\";"] ++
    file.imports.map (importLine file.path) ++
    [""] ++
    declarations.flatMap (fun d => [d, ""]) ++
    docLines s.api.docs .block "" ++
    ["export class " ++ s.api.name ++ " \x7b",
      "  static remote = new Remote(\"" ++ remoteUrlPlaceholder ++ "\");",
      ""] ++
    [""].intercalate (s.api.exposedMethods.map (methodLines s.api.name)) ++
    ["\x7d", "", "export \x7b Remote \x7d;"])

/-- The text of a file that holds only declarations. -/
def modelText (file : FilePlan) (_ : Metadata) : Except Error String := do
  let declarations ← file.declarations.mapM declarationText
  return unlines (
    banner ++
    (if file.imports.isEmpty then [] else [""]) ++
    file.imports.map (importLine file.path) ++
    declarations.flatMap (fun d => ["", d]))

/-- The TypeScript emitter. -/
def emitter : Emitter where
  target := .typeScript
  reserved := reserved
  clientPath className := Text.lowerCamel className ++ ".sdk.ts"
  modelPath modulePath := safeModulePath modulePath ++ ".ts"
  runtimePath := "remote.ts"
  emitsDeclarations := true
  typeText := typeText
  declarationText := declarationText
  clientText := clientText
  modelText := modelText
  runtimeText := typeScriptRuntimeText
  companions _ := []

end ServiceStubs.TypeScript
