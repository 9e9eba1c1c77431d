import ServiceStubs.Target.Naming
import ServiceStubs.Target.DocComment
import ServiceStubs.Target.OutputPath
import ServiceStubs.Target.Swift.Runtime
import ServiceStubs.Text.WordCase

/-!
# Swift clients

Records are classes that encode and decode themselves, also where a record holds one of its own kind.
All files of an output directory are one module, so nothing is imported between them.
-/

namespace ServiceStubs.Swift

/-- Words that cannot name a parameter or property. -/
def reserved : List String := [
  "Any", "Self", "as", "associatedtype", "break", "case", "catch", "class", "continue",
  "default", "defer", "deinit", "do", "else", "enum", "extension", "fallthrough", "false",
  "fileprivate", "for", "func", "guard", "if", "import", "in", "init", "inout", "internal",
  "is", "let", "nil", "open", "operator", "private", "protocol", "public", "repeat",
  "rethrows", "return", "self", "static", "struct", "subscript", "super", "switch", "throw",
  "throws", "true", "try", "typealias", "var", "where", "while"]

/-- Types that admit `nil` as they are. -/
def topTypes : List String := ["AnyCodable?"]

/-! ## Types -/

/-- The key type of a dictionary. -/
def keyText : DataType → String
  | .integer => "Int"
  | .double => "Double"
  | _ => "String"

/-- The spelling of a type. -/
def typeText : DataType → String
  | .string => "String"
  | .integer => "Int"
  | .double => "Double"
  | .float => "Float"
  | .boolean => "Bool"
  | .void => "Void"
  | .null => "AnyCodable?"
  | .any => "AnyCodable"
  | .date => "Date"
  | .array item => "[" ++ typeText item ++ "]"
  | .map key value => "[" ++ keyText key ++ ": " ++ typeText value ++ "]"
  | .promise result => typeText result
  | .union members =>
    match _h : nullableInner? members with
    | some inner => nullableText topTypes (typeText inner)
    | none => "AnyCodable"
  | .named ref => ref.name
  | .record _ => "[String: AnyCodable]"
termination_by t => sizeOf t
decreasing_by
  all_goals first | decreasing_tactic | exact sizeOf_lt_of_nullableInner? _h

/-- A literal in source form. -/
def literalText : Literal → String
  | .string value => Text.quote value false
  | .number text => text
  | .boolean value => boolText value
  | .null => "nil"

/-! ## Declarations -/

/-- The type of a field; an optional field may be nil. -/
def fieldType (f : Field) : String :=
  if f.optional then nullableText topTypes (typeText f.type) else typeText f.type

/-- The class for a record. Coding keys are listed if some property could not keep its name. -/
def recordText (name : String) (fields : List Field) : String :=
  let ident := identOf (fieldIdents reserved fields)
  let ordered := requiredFirst fields
  let args := ordered.map fun f =>
    ident f ++ ": " ++ fieldType f ++ if Text.endsWith (fieldType f) "?" then " = nil" else ""
  "public final class " ++ name ++ ": Codable \x7b\n" ++
  String.join (fields.map fun f => "    public var " ++ ident f ++ ": " ++ fieldType f ++ "\n") ++
  (if fields.isEmpty then "" else "\n") ++
  "    public init(" ++ commaSeparated args ++ ") \x7b\n" ++
  String.join (ordered.map fun f => "        self." ++ ident f ++ " = " ++ ident f ++ "\n") ++
  "    \x7d\n" ++
  (if fields.all fun f => ident f == f.name then "" else
    "\n    enum CodingKeys: String, CodingKey \x7b\n" ++
    String.join (fields.map fun f =>
      "        case " ++ ident f ++
        (if ident f = f.name then "" else " = " ++ Text.quote f.name false) ++ "\n") ++
    "    \x7d\n") ++
  "\x7d"

/-- The type of the raw values of an enum. -/
def rawType (kind : EnumValueKind) (cases : List EnumCase) : String :=
  match kind with
  | .string => "String"
  | .number => if cases.all EnumCase.isInteger then "Int" else "Double"

/-- The enum. An enum with raw values has to have a case, so one without is a name for numbers. -/
def enumText (name : String) (kind : EnumValueKind) (cases : List EnumCase) : String :=
  if cases.isEmpty then "public typealias " ++ name ++ " = Int"
  else
    "public enum " ++ name ++ ": " ++ rawType kind cases ++ ", Codable \x7b\n" ++
    String.join (cases.map fun c =>
      "    case " ++ safeIdent reserved (Text.lowerCamel c.name) ++ " = " ++
        literalText c.value ++ "\n") ++
    "\x7d"

/-- A declaration without its documentation. -/
def declarationBody (d : Declaration) : Except Error String :=
  match d.body with
  | .record fields => .ok (recordText d.name fields)
  | .enumeration cases =>
    (casesKind d.name none cases).map fun kind => enumText d.name kind cases
  | .alias type => .ok ("public typealias " ++ d.name ++ " = " ++ typeText type)

/-- A declaration behind its documentation. -/
def declarationText (d : Declaration) : Except Error String :=
  (declarationBody d).map (documented d.docs .tripleSlash)

/-! ## Files -/

/-- A parameter list. Only parameters that end the list can have defaults. -/
def paramsText (params : List Parameter) : String :=
  commaSeparated (((params.zip (paramIdents reserved params)).zip (trailingOptional params)).map
    fun ((p, ident), trailing) =>
      ident ++ ": " ++
        match trailing, p.defaultValue with
        | true, some value => typeText p.type ++ " = " ++ literalText value
        | true, none => nullableText topTypes (typeText p.type) ++ " = nil"
        | false, _ => typeText p.type)

/-- The lines that every file with declarations begins with. -/
def preamble : List String := [
  "// This is an auto generated code. This code should not be modified since the file can be overwritten",
  "// if new rpcgen commands are executed.",
  "",
  "import Foundation"]

/-- The lines of a method. -/
def methodLines (className : String) (m : Method) : List String :=
  let returns := m.returns.awaited
  let signature := "    public static func " ++ safeIdent reserved m.name ++ "(" ++
    paramsText m.params ++ ") async throws"
  let arguments := "(method: \"" ++ qualifiedName className m.name ++ "\", args: [" ++
    commaSeparated (paramIdents reserved m.params) ++ "])"
  [""] ++
  docLines m.docs .tripleSlash "    " ++
  (if returns.isVoid then
    [signature ++ " \x7b", "        try await remote.callVoid" ++ arguments]
  else
    [signature ++ " -> " ++ typeText returns ++ " \x7b",
      "        return try await remote.call" ++ arguments]) ++
  ["    \x7d"]

/-- The text of a client. -/
def clientText (s : Service) (file : FilePlan) (_ : Metadata) : Except Error String := do
  let declarations ← file.declarations.mapM declarationText
  return unlines (
    preamble ++
    declarations.flatMap (fun d => ["", d]) ++
    [""] ++
    docLines s.api.docs .tripleSlash "" ++
    ["public final class " ++ s.api.name ++ " \x7b",
      "    public static let remote = Remote(url: \"" ++ remoteUrlPlaceholder ++ "\")"] ++
    s.api.exposedMethods.flatMap (methodLines s.api.name) ++
    ["\x7d"])

/-- The text of a file that holds only declarations. -/
def modelText (file : FilePlan) (_ : Metadata) : Except Error String := do
  let declarations ← file.declarations.mapM declarationText
  return unlines (preamble ++ declarations.flatMap (fun d => ["", d]))

/-- The Swift emitter. -/
def emitter : Emitter where
  target := .swift
  reserved := reserved
  clientPath className := Text.lowerCamel className ++ ".sdk.swift"
  modelPath modulePath := safeModulePath modulePath ++ ".swift"
  runtimePath := "remote.swift"
  emitsDeclarations := true
  typeText := typeText
  declarationText := declarationText
  clientText := clientText
  modelText := modelText
  runtimeText := swiftRuntimeText
  companions _ := []

end ServiceStubs.Swift
