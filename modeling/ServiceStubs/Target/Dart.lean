import ServiceStubs.Target.Naming
import ServiceStubs.Target.DocComment
import ServiceStubs.Target.OutputPath
import ServiceStubs.Target.Dart.Runtime
import ServiceStubs.Text.WordCase

/-!
# Dart clients

Records decode themselves from JSON and encode themselves to it. Enums and aliases are decoded by a
function of their own, so that a place of use need not know what stands behind the name.
-/

namespace ServiceStubs.Dart

/-- Words that cannot name a parameter or field. -/
def reserved : List String := [
  "abstract", "as", "assert", "async", "await", "break", "case", "catch", "class", "const",
  "continue", "covariant", "default", "deferred", "do", "dynamic", "else", "enum", "export",
  "extends", "extension", "external", "factory", "false", "final", "finally", "for",
  "Function", "get", "hide", "if", "implements", "import", "in", "interface", "is", "late",
  "library", "mixin", "new", "null", "on", "operator", "part", "required", "rethrow",
  "return", "set", "show", "static", "super", "switch", "sync", "this", "throw", "true", "try",
  "typedef", "var", "void", "while", "with", "yield"]

/-- Members that every enum has already. -/
def enumMembers : List String := ["values", "index", "value", "name"]

/-- Types that admit `null` without a question mark. -/
def topTypes : List String := ["dynamic", "void", "Null"]

/-! ## Types -/

/-- The key type of a map. -/
def keyText : DataType → String
  | .integer => "int"
  | .double | .float => "double"
  | _ => "String"

/-- The spelling of a type. -/
def typeText : DataType → String
  | .string => "String"
  | .integer => "int"
  | .double | .float => "double"
  | .boolean => "bool"
  | .void => "void"
  | .null => "Null"
  | .any => "dynamic"
  | .date => "DateTime"
  | .array item => "List<" ++ typeText item ++ ">"
  | .map key value => "Map<" ++ keyText key ++ ", " ++ typeText value ++ ">"
  | .promise result => "Future<" ++ typeText result ++ ">"
  | .union members =>
    match _h : nullableInner? members with
    | some inner => nullableText topTypes (typeText inner)
    -- The language has no unions beyond values that may be missing.
    | none => "dynamic"
  | .named ref => ref.name
  | .record _ => "Map<String, dynamic>"
termination_by t => sizeOf t
decreasing_by
  all_goals first | decreasing_tactic | exact sizeOf_lt_of_nullableInner? _h

/-- The function that decodes values of a named type. -/
def decoderName (name : String) : String :=
  "decode" ++ name

/-- The expression that makes a key out of a JSON key. -/
def decodedKey (key : DataType) (k : String) : String :=
  match key with
  | .integer => "int.parse(" ++ k ++ ")"
  | .double | .float => "double.parse(" ++ k ++ ")"
  | _ => k

/-- The expression that makes a value of the type out of the JSON value `expr`. `depth` numbers the
variables of nested closures. -/
def decoded (expr : String) (depth : Nat) : DataType → String
  | .string => expr ++ " as String"
  | .boolean => expr ++ " as bool"
  | .null => expr ++ " as Null"
  | .integer => "(" ++ expr ++ " as num).toInt()"
  | .double | .float => "(" ++ expr ++ " as num).toDouble()"
  | .void | .any => expr
  | .date => "DateTime.parse(" ++ expr ++ " as String)"
  | .array item =>
    let e := "e" ++ toString depth
    "(" ++ expr ++ " as List<dynamic>).map((" ++ e ++ ") => " ++ decoded e (depth + 1) item ++
      ").toList()"
  | .map key value =>
    let k := "k" ++ toString depth
    let v := "v" ++ toString depth
    "(" ++ expr ++ " as Map<String, dynamic>).map((" ++ k ++ ", " ++ v ++ ") => MapEntry(" ++
      decodedKey key k ++ ", " ++ decoded v (depth + 1) value ++ "))"
  | .promise result => decoded expr depth result
  | .union members =>
    match _h : nullableInner? members with
    | some inner => "(" ++ expr ++ " == null ? null : " ++ decoded expr depth inner ++ ")"
    | none => expr
  | .named ref =>
    match ref.kind with
    | .record => ref.name ++ ".fromJson(" ++ expr ++ " as Map<String, dynamic>)"
    | .enumeration | .alias => decoderName ref.name ++ "(" ++ expr ++ ")"
  | .record _ => expr ++ " as Map<String, dynamic>"
termination_by t => sizeOf t
decreasing_by
  all_goals first | decreasing_tactic | exact sizeOf_lt_of_nullableInner? _h

/-- A literal in source form. -/
def literalText : Literal → String
  | .string value => Text.quote value true
  | .number text => text
  | .boolean value => boolText value
  | .null => "null"

/-! ## Declarations -/

/-- The type of a field; an optional field may be null. -/
def fieldType (f : Field) : String :=
  if f.optional then nullableText topTypes (typeText f.type) else typeText f.type

/-- The class for a record. -/
def recordText (name : String) (fields : List Field) : String :=
  let ident := identOf (fieldIdents reserved fields)
  let ordered := requiredFirst fields
  let constructorParams := ordered.map fun f =>
    if f.optional then "this." ++ ident f else "required this." ++ ident f
  "class " ++ name ++ " \x7b\n" ++
  String.join (fields.map fun f => "  final " ++ fieldType f ++ " " ++ ident f ++ ";\n") ++
  (if fields.isEmpty then "" else "\n") ++
  (if ordered.isEmpty then "  " ++ name ++ "();\n"
    else "  " ++ name ++ "(\x7b" ++ commaSeparated constructorParams ++ "\x7d);\n") ++
  "\n  factory " ++ name ++ ".fromJson(Map<String, dynamic> json) => " ++ name ++ "(\n" ++
  String.join (ordered.map fun f =>
    let value := "json[" ++ Text.quote f.name true ++ "]"
    "        " ++ ident f ++ ": " ++
      (if f.optional && f.type.nullableInner?.isNone then value ++ " == null ? null : " else "") ++
      decoded value 0 f.type ++ ",\n") ++
  "      );\n" ++
  "\n  Map<String, dynamic> toJson() => \x7b\n" ++
  String.join (fields.map fun f =>
    "        " ++ (if f.optional then "if (" ++ ident f ++ " != null) " else "") ++
      Text.quote f.name true ++ ": " ++ ident f ++ ",\n") ++
  "      \x7d;\n\x7d"

/-- The enum with its decoder. An enum has to have a value, so one without cases is a name for the
type of its values. -/
def enumText (name : String) (kind : EnumValueKind) (cases : List EnumCase) : String :=
  let valueType := match kind with
    | .string => "String"
    | .number => "num"
  if cases.isEmpty then
    "typedef " ++ name ++ " = " ++ valueType ++ ";\n\n" ++
      name ++ " " ++ decoderName name ++ "(dynamic value) => value as " ++ valueType ++ ";"
  else
    "enum " ++ name ++ " \x7b\n" ++
    ",\n".intercalate (cases.map fun c =>
      "  " ++ safeIdent (reserved ++ enumMembers) (Text.lowerCamel c.name) ++
        "(" ++ literalText c.value ++ ")") ++
    ";\n\n  const " ++ name ++ "(this.value);\n\n  final " ++ valueType ++
    " value;\n\n  dynamic toJson() => value;\n\x7d\n\n" ++
    name ++ " " ++ decoderName name ++ "(dynamic value) =>\n    " ++
    name ++ ".values.firstWhere((e) => e.value == value);"

/-- A declaration without its documentation. -/
def declarationBody (d : Declaration) : Except Error String :=
  match d.body with
  | .record fields => .ok (recordText d.name fields)
  | .enumeration cases =>
    (casesKind d.name none cases).map fun kind => enumText d.name kind cases
  | .alias type =>
    .ok ("typedef " ++ d.name ++ " = " ++ typeText type ++ ";\n\n" ++
      d.name ++ " " ++ decoderName d.name ++ "(dynamic value) => " ++ decoded "value" 0 type ++ ";")

/-- A declaration behind its documentation. -/
def declarationText (d : Declaration) : Except Error String :=
  (declarationBody d).map (documented d.docs .tripleSlash)

/-! ## Files -/

/-- What a file writes to import from another. -/
def importPath (source target : String) : String :=
  let path := relativePath source target
  match path.toList with
  | '.' :: '/' :: rest => String.ofList rest
  | _ => path

/-- A parameter list: the parameters that may be left out at the end go into brackets. -/
def paramsText (params : List Parameter) : String :=
  let all := (params.zip (paramIdents reserved params)).zip (trailingOptional params)
  let required := (all.filter fun p => !p.2).map fun ((p, ident), _) =>
    typeText p.type ++ " " ++ ident
  let optional := (all.filter fun p => p.2).map fun ((p, ident), _) =>
    match p.defaultValue with
    | some value => typeText p.type ++ " " ++ ident ++ " = " ++ literalText value
    | none => nullableText topTypes (typeText p.type) ++ " " ++ ident
  commaSeparated
    (required ++ if optional.isEmpty then [] else ["[" ++ commaSeparated optional ++ "]"])

/-- The lines that say that a file is generated. -/
def banner : List String := [
  "// This is an auto generated code. This code should not be modified since the file can be overwritten",
  "// if new rpcgen commands are executed."]

/-- The statement that imports another file. -/
def importLine (source target : String) : String :=
  "import '" ++ importPath source target ++ "';"

/-- The lines of a method. -/
def methodLines (className : String) (m : Method) : List String :=
  let returns := m.returns.awaited
  let call := "await remote.call(\"" ++ qualifiedName className m.name ++ "\", [" ++
    commaSeparated (paramIdents reserved m.params) ++ "]);"
  [""] ++
  docLines m.docs .tripleSlash "  " ++
  ["  static Future<" ++ typeText returns ++ "> " ++ safeIdent reserved m.name ++ "(" ++
    paramsText m.params ++ ") async \x7b"] ++
  (if returns.isVoid then ["    " ++ call] else
    ["    final response = " ++ call, "    return " ++ decoded "response" 0 returns ++ ";"]) ++
  ["  \x7d"]

/-- The text of a client. -/
def clientText (s : Service) (file : FilePlan) (_ : Metadata) : Except Error String := do
  let declarations ← file.declarations.mapM declarationText
  return unlines (
    banner ++
    ["", importLine file.path "remote.dart"] ++
    file.imports.map (fun i => importLine file.path i.file) ++
    declarations.flatMap (fun d => ["", d]) ++
    [""] ++
    docLines s.api.docs .tripleSlash "" ++
    ["class " ++ s.api.name ++ " \x7b",
      "  static final Remote remote = Remote(\"" ++ remoteUrlPlaceholder ++ "\");"] ++
    s.api.exposedMethods.flatMap (methodLines s.api.name) ++
    ["\x7d"])

/-- The text of a file that holds only declarations. -/
def modelText (file : FilePlan) (_ : Metadata) : Except Error String := do
  let declarations ← file.declarations.mapM declarationText
  return unlines (
    banner ++
    (if file.imports.isEmpty then [] else [""]) ++
    file.imports.map (fun i => importLine file.path i.file) ++
    declarations.flatMap (fun d => ["", d]))

/-- The Dart emitter. -/
def emitter : Emitter where
  target := .dart
  reserved := reserved
  clientPath className := Text.snakeCase className ++ ".dart"
  modelPath modulePath := safeModulePath modulePath ++ ".dart"
  runtimePath := "remote.dart"
  emitsDeclarations := true
  typeText := typeText
  declarationText := declarationText
  clientText := clientText
  modelText := modelText
  runtimeText := dartRuntimeText
  companions _ := []

end ServiceStubs.Dart
