import ServiceStubs.Target.Naming
import ServiceStubs.Target.DocComment
import ServiceStubs.Target.OutputPath
import ServiceStubs.Target.Kotlin.Runtime
import ServiceStubs.Text.WordCase

/-!
# Kotlin clients

Records are data classes that a JSON library fills by field name, so nothing is generated for
decoding. Enums carry the value they have on the wire. All files of a project are one package, so
nothing is imported between them.
-/

namespace ServiceStubs.Kotlin

/-- Words that cannot name a parameter or property. -/
def reserved : List String := [
  "as", "break", "class", "continue", "do", "else", "false", "for", "fun", "if", "in",
  "interface", "is", "null", "object", "package", "return", "super", "this", "throw", "true",
  "try", "typealias", "typeof", "val", "var", "when", "while"]

/-- Types that admit `null` as they are. -/
def topTypes : List String := ["Any?"]

/-! ## Types -/

/-- The key type of a map. -/
def keyText : DataType → String
  | .integer => "Int"
  | .double => "Double"
  | _ => "String"

/-- The spelling of a type. -/
def typeText : DataType → String
  | .string => "String"
  | .integer => "Int"
  | .double => "Double"
  | .float => "Float"
  | .boolean => "Boolean"
  | .void => "Unit"
  | .null => "Nothing?"
  | .any => "Any?"
  | .date => "Date"
  | .array item => "List<" ++ typeText item ++ ">"
  | .map key value => "Map<" ++ keyText key ++ ", " ++ typeText value ++ ">"
  | .promise result => typeText result
  | .union members =>
    match _h : nullableInner? members with
    | some inner => nullableText topTypes (typeText inner)
    | none => "Any?"
  | .named ref => ref.name
  | .record _ => "Map<String, Any?>"
termination_by t => sizeOf t
decreasing_by
  all_goals first | decreasing_tactic | exact sizeOf_lt_of_nullableInner? _h

/-- Whether a number is written without a fraction or exponent. -/
def isIntegralText (text : String) : Bool :=
  text.toList.all fun c => c != '.' && c != 'e' && c != 'E'

/-- A literal in source form for a value of the given type. A whole number is no floating-point
number, so it gets a fraction where the type asks for one. -/
def literalText (type : DataType) : Literal → String
  | .string value => Text.quote value true
  | .number text =>
    match type, isIntegralText text with
    | .double, true => text ++ ".0"
    | .float, true => text ++ ".0f"
    | .float, false => text ++ "f"
    | _, _ => text
  | .boolean value => boolText value
  | .null => "null"

/-! ## Declarations -/

/-- The class for a record. -/
def recordText (name : String) (fields : List Field) : String :=
  if fields.isEmpty then "class " ++ name
  else
    let ident := identOf (fieldIdents reserved fields)
    "data class " ++ name ++ "(\n" ++
    String.join ((requiredFirst fields).map fun f =>
      "    " ++
      (if ident f = f.name then "" else "@SerializedName(" ++ Text.quote f.name true ++ ") ") ++
      "val " ++ ident f ++ ": " ++
      (if f.optional then nullableText topTypes (typeText f.type) ++ " = null"
        else typeText f.type) ++ ",\n") ++
    ")"

/-- The type of the values of an enum. -/
def enumValueType (kind : EnumValueKind) (cases : List EnumCase) : DataType :=
  match kind with
  | .string => .string
  | .number => if cases.all EnumCase.isInteger then .integer else .double

/-- The enum class. -/
def enumText (name : String) (kind : EnumValueKind) (cases : List EnumCase) : String :=
  let valueType := enumValueType kind cases
  "enum class " ++ name ++ "(override val value: " ++ typeText valueType ++ ") : WireEnum" ++
    if cases.isEmpty then "" else
      " \x7b\n" ++
      String.join (cases.map fun c =>
        "    " ++ safeIdent reserved (Text.shoutySnakeCase c.name) ++
          "(" ++ literalText valueType c.value ++ "),\n") ++
      "    ;\n\x7d"

/-- A declaration without its documentation. -/
def declarationBody (d : Declaration) : Except Error String :=
  match d.body with
  | .record fields => .ok (recordText d.name fields)
  | .enumeration cases =>
    (casesKind d.name none cases).map fun kind => enumText d.name kind cases
  | .alias type => .ok ("typealias " ++ d.name ++ " = " ++ typeText type)

/-- A declaration behind its documentation. -/
def declarationText (d : Declaration) : Except Error String :=
  (declarationBody d).map (documented d.docs .block)

/-! ## Files -/

/-- The package of a project. -/
def package (m : Metadata) : String :=
  "com." ++ m.packageIdent ++ ".sdk"

/-- A parameter list. Only parameters that end the list can have defaults. -/
def paramsText (params : List Parameter) : String :=
  commaSeparated (((params.zip (paramIdents reserved params)).zip (trailingOptional params)).map
    fun ((p, ident), trailing) =>
      ident ++ ": " ++
        match trailing, p.defaultValue with
        | true, some value =>
          typeText p.type ++ " = " ++ literalText (p.type.nullableInner?.getD p.type) value
        | true, none => nullableText topTypes (typeText p.type) ++ " = null"
        | false, _ => typeText p.type)

/-- The lines that say that a file is generated. -/
def banner : List String := [
  "// This is an auto generated code. This code should not be modified since the file can be overwritten",
  "// if new rpcgen commands are executed."]

/-- The lines of a method. -/
def methodLines (className : String) (m : Method) : List String :=
  let returns := m.returns.awaited
  let idents := paramIdents reserved m.params
  let args := if idents.isEmpty then "emptyList()" else "listOf(" ++ commaSeparated idents ++ ")"
  let signature := "        suspend fun " ++ safeIdent reserved m.name ++ "(" ++
    paramsText m.params ++ ")"
  let wireName := "\"" ++ qualifiedName className m.name ++ "\""
  [""] ++
  docLines m.docs .block "        " ++
  if returns.isVoid then
    [signature ++ " \x7b",
      "            remote.callVoid(" ++ wireName ++ ", " ++ args ++ ")",
      "        \x7d"]
  else
    [signature ++ ": " ++ typeText returns ++ " =",
      "            remote.call(" ++ wireName ++ ", object : TypeToken<" ++ typeText returns ++
        ">() \x7b\x7d.type, " ++ args ++ ")"]

/-- The text of a client. -/
def clientText (s : Service) (file : FilePlan) (m : Metadata) : Except Error String := do
  let declarations ← file.declarations.mapM declarationText
  return unlines (
    banner ++
    ["", "package " ++ package m, "",
      "import com.google.gson.annotations.SerializedName",
      "import com.google.gson.reflect.TypeToken",
      "import java.util.Date"] ++
    declarations.flatMap (fun d => ["", d]) ++
    [""] ++
    docLines s.api.docs .block "" ++
    ["class " ++ s.api.name ++ " \x7b",
      "    companion object \x7b",
      "        val remote = Remote(\"" ++ remoteUrlPlaceholder ++ "\")"] ++
    s.api.exposedMethods.flatMap (methodLines s.api.name) ++
    ["    \x7d", "\x7d"])

/-- The text of a file that holds only declarations. -/
def modelText (file : FilePlan) (m : Metadata) : Except Error String := do
  let declarations ← file.declarations.mapM declarationText
  return unlines (
    banner ++
    ["", "package " ++ package m, "",
      "import com.google.gson.annotations.SerializedName",
      "import java.util.Date"] ++
    declarations.flatMap (fun d => ["", d]))

/-- The Kotlin emitter. -/
def emitter : Emitter where
  target := .kotlin
  reserved := reserved
  clientPath className := Text.snakeCase className ++ ".kt"
  modelPath modulePath := safeModulePath modulePath ++ ".kt"
  runtimePath := "remote.kt"
  emitsDeclarations := true
  typeText := typeText
  declarationText := declarationText
  clientText := clientText
  modelText := modelText
  runtimeText := kotlinRuntimeText
  companions _ := []

end ServiceStubs.Kotlin
