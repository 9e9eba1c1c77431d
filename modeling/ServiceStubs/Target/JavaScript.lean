import ServiceStubs.Target.TypeScript
import ServiceStubs.Target.JavaScript.Runtime
import ServiceStubs.Plan.Reachable

/-!
# JavaScript clients

JavaScript has no types, so they are told in documentation comments: at every method, and in a
`@typedef` block for every declaration that a client reaches. No file is written for declarations
alone.
-/

namespace ServiceStubs.JavaScript

/-- The spelling of a type in a documentation comment. -/
def typeText : DataType → String
  | .string => "string"
  | .integer | .double | .float => "number"
  | .boolean => "boolean"
  | .void => "void"
  | .null => "null"
  | .any => "*"
  | .date => "Date"
  | .array item => "Array<" ++ typeText item ++ ">"
  | .map key value => "Object<" ++ typeText key ++ ", " ++ typeText value ++ ">"
  | .promise result => "Promise<" ++ typeText result ++ ">"
  | .union [] => "*"
  | .union members => "(" ++ "|".intercalate (members.map fun m => typeText m) ++ ")"
  | .named ref => ref.name
  | .record [] => "Object"
  | .record fields =>
    "\x7b" ++
      commaSeparated (fields.map fun f =>
        TypeScript.propertyName f.name ++ ": " ++
          (if f.optional then "(" ++ typeText f.type ++ "|undefined)" else typeText f.type)) ++
      "\x7d"
termination_by t => sizeOf t
decreasing_by
  all_goals first | decreasing_tactic | exact Field.sizeOf_type_lt_of_mem ‹_ ∈ _›

/-- A type in the braces of a documentation tag. -/
def bracedType (type : String) : String :=
  "\x7b" ++ type ++ "\x7d"

/-- The block that documents a declaration. -/
def declarationText (d : Declaration) : Except Error String := do
  let definition ← match d.body with
    | .record fields =>
      pure (" * @typedef \x7bObject\x7d " ++ d.name ++ "\n" ++
        String.join (fields.map fun f =>
          " * @property " ++ bracedType (typeText f.type) ++ " " ++
            (if f.optional then "[" ++ f.name ++ "]" else f.name) ++ "\n"))
    | .enumeration cases =>
      d.enumValueKind.map fun _ =>
        let values :=
          if cases.isEmpty then "*"
          else "|".intercalate (cases.map fun c => TypeScript.literalText c.value)
        " * @typedef " ++ bracedType ("(" ++ values ++ ")") ++ " " ++ d.name ++ "\n"
    | .alias type => pure (" * @typedef " ++ bracedType (typeText type) ++ " " ++ d.name ++ "\n")
  let description := match d.docs with
    | some docs => unlines ((Text.lines docs).map fun line => trimmedLine (" * " ++ line))
    | none => ""
  return "/**\n" ++ description ++ definition ++ " */"

/-! ## Files -/

/-- A parameter with its default, if it has one. -/
def paramText (p : Parameter) (ident : String) : String :=
  match p.defaultValue with
  | some value => ident ++ " = " ++ TypeScript.literalText value
  | none => ident

/-- The tag that documents a parameter. -/
def paramTag (p : Parameter) (ident : String) : String :=
  "@param " ++ bracedType (typeText p.type) ++ " " ++
    match p.defaultValue with
    | some value => "[" ++ ident ++ "=" ++ TypeScript.literalText value ++ "]"
    | none => if p.optional then "[" ++ ident ++ "]" else ident

/-- The documentation of a method: its description, then a tag for each parameter and the result. -/
def methodDocs (m : Method) (idents : List String) : String :=
  let tags := (m.params.zip idents).map (fun (p, ident) => paramTag p ident) ++
    ["@returns " ++ bracedType ("Promise<" ++ typeText m.returns.awaited ++ ">")]
  let signature := "\n".intercalate tags
  match m.docs with
  | some description => description ++ "\n\n" ++ signature
  | none => signature

/-- The lines of a method. -/
def methodLines (className : String) (m : Method) : List String :=
  let idents := paramIdents TypeScript.reserved m.params
  let params := commaSeparated ((m.params.zip idents).map fun (p, ident) => paramText p ident)
  docLines (some (methodDocs m idents)) .block "  " ++ [
    "  static async " ++ m.name ++ "(" ++ params ++ ") \x7b",
    "    " ++ (if m.returns.awaited.isVoid then "" else "return ") ++ "await " ++ className ++
      ".remote.call(\"" ++ qualifiedName className m.name ++ "\"" ++
      TypeScript.furtherArguments (commaSeparated idents) ++ ");",
    "  \x7d"]

/-- The text of a client. -/
def clientText (s : Service) (file : FilePlan) (_ : Metadata) : Except Error String := do
  let declarations ← s.reachableDeclarations.mapM declarationText
  return unlines (
    TypeScript.banner ++
    ["", "import \x7b Remote \x7d from \"" ++ relativePath file.path "remote.js" ++ "\";", ""] ++
    declarations.flatMap (fun d => [d, ""]) ++
    docLines s.api.docs .block "" ++
    ["export class " ++ s.api.name ++ " \x7b",
      "  static remote = new Remote(\"" ++ remoteUrlPlaceholder ++ "\");",
      ""] ++
    [""].intercalate (s.api.exposedMethods.map (methodLines s.api.name)) ++
    ["\x7d", "", "export \x7b Remote \x7d;"])

/-- Declarations have no files of their own. -/
def modelText (file : FilePlan) (_ : Metadata) : Except Error String :=
  .error (.render Target.javaScript.label (.unexpectedModelFile file.path))

/-- The JavaScript emitter. -/
def emitter : Emitter where
  target := .javaScript
  reserved := TypeScript.reserved
  clientPath className := Text.lowerCamel className ++ ".sdk.js"
  modelPath modulePath := modulePath ++ ".js"
  runtimePath := "remote.js"
  emitsDeclarations := false
  typeText := typeText
  declarationText := declarationText
  clientText := clientText
  modelText := modelText
  runtimeText := javaScriptRuntimeText
  companions _ := []

end ServiceStubs.JavaScript
