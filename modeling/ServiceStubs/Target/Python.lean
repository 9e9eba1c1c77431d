import ServiceStubs.Target.Naming
import ServiceStubs.Target.DocComment
import ServiceStubs.Target.OutputPath
import ServiceStubs.Target.Python.Runtime
import ServiceStubs.Text.WordCase

/-!
# Python clients

Records become classes whose constructor turns the mappings that arrive into records again, through
the expressions of `hydrated?`. Keys on the wire stay as declared, even where an attribute had to be
renamed. Every directory with modules becomes a package: `packageMarkers`.
-/

namespace ServiceStubs.Python

/-- Words that cannot name a parameter or attribute. -/
def reserved : List String := [
  "False", "None", "True", "and", "as", "assert", "async", "await", "break", "class",
  "continue", "def", "del", "elif", "else", "except", "finally", "for", "from", "global", "if",
  "import", "in", "is", "lambda", "nonlocal", "not", "or", "pass", "raise", "return", "try",
  "while", "with", "yield", "self"]

/-! ## Types -/

/-- The key type of a dictionary. -/
def keyText : DataType → String
  | .integer => "int"
  | .double | .float => "float"
  | _ => "str"

/-- The spelling of a type. -/
def typeText : DataType → String
  | .string => "str"
  | .integer => "int"
  | .double | .float => "float"
  | .boolean => "bool"
  | .void | .null => "None"
  | .any => "Any"
  | .date => "datetime"
  | .array item => "list[" ++ typeText item ++ "]"
  | .map key value => "dict[" ++ keyText key ++ ", " ++ typeText value ++ "]"
  | .promise result => typeText result
  | .union [] => "Any"
  | .union members => " | ".intercalate (members.map fun m => typeText m)
  | .named ref => ref.name
  | .record _ => "dict[str, Any]"
termination_by t => sizeOf t

/-- The alternatives of a type, which stand between ` | `. -/
def alternatives (alternative : List Char) : List Char → List (List Char)
  | ' ' :: '|' :: ' ' :: rest => alternative.reverse :: alternatives [] rest
  | c :: rest => alternatives (c :: alternative) rest
  | [] => [alternative.reverse]

/-- A type that also admits `None`. -/
def optionalText (rendered : String) : String :=
  if rendered = "None" ∨ rendered = "Any" ∨ "None".toList ∈ alternatives [] rendered.toList then
    rendered
  else
    rendered ++ " | None"

/-- A literal in source form. -/
def literalText : Literal → String
  | .string value => Text.quote value false
  | .number text => text
  | .boolean true => "True"
  | .boolean false => "False"
  | .null => "None"

/-! ## Turning data into records again -/

/-- The expression that makes a value of the type out of the JSON value `expr`; `none` where the
value can be used as it arrives. `depth` numbers the variables of nested comprehensions. -/
def hydrated? (expr : String) (depth : Nat) : DataType → Option String
  | .named ref =>
    match ref.kind with
    | .record =>
      some ("(" ++ ref.name ++ ".from_mapping(" ++ expr ++ ") if isinstance(" ++ expr ++
        ", Mapping) else " ++ expr ++ ")")
    | .enumeration => some (ref.name ++ "(" ++ expr ++ ")")
    | .alias => none
  | .date =>
    some ("(datetime.fromisoformat(" ++ expr ++ ") if isinstance(" ++ expr ++ ", str) else " ++
      expr ++ ")")
  | .array item =>
    let v := "v" ++ toString depth
    (hydrated? v (depth + 1) item).map fun h =>
      "[" ++ h ++ " for " ++ v ++ " in " ++ expr ++ "]"
  | .map _ value =>
    let k := "k" ++ toString depth
    let v := "v" ++ toString depth
    (hydrated? v (depth + 1) value).map fun h =>
      "\x7b" ++ k ++ ": " ++ h ++ " for " ++ k ++ ", " ++ v ++ " in " ++ expr ++ ".items()\x7d"
  | .promise result => hydrated? expr depth result
  | .union members =>
    match _h : nullableInner? members with
    | some inner =>
      (hydrated? expr depth inner).map fun h =>
        "(" ++ h ++ " if " ++ expr ++ " is not None else None)"
    | none => none
  | .string | .integer | .double | .float | .boolean | .void | .null | .any | .record _ => none
termination_by t => sizeOf t
decreasing_by
  all_goals first | decreasing_tactic | exact sizeOf_lt_of_nullableInner? _h

/-- The expression that a constructor stores in a field, given the argument `attr`. -/
def storedValue (f : Field) (attr : String) : String :=
  match hydrated? attr 0 f.type with
  | some h =>
    if f.optional && f.type.nullableInner?.isNone then
      "(" ++ h ++ " if " ++ attr ++ " is not None else None)"
    else h
  | none => attr

/-! ## Declarations -/

/-- The class for a record. -/
def recordText (name : String) (fields : List Field) : String :=
  let ordered := requiredFirst fields
  let ident := identOf (fieldIdents reserved fields)
  let args := "self" :: ordered.map fun f =>
    if f.optional then ident f ++ ": " ++ optionalText (typeText f.type) ++ " = None"
    else ident f ++ ": " ++ typeText f.type
  "\n".intercalate (
    ["class " ++ name ++ ":",
      "    def __init__(" ++ commaSeparated args ++ ") -> None:"] ++
    (if ordered.isEmpty then ["        pass"] else []) ++
    ordered.map (fun f => "        self." ++ ident f ++ " = " ++ storedValue f (ident f)) ++
    ["",
      "    @classmethod",
      "    def from_mapping(cls, data: Mapping[str, Any]) -> " ++ name ++ ":"] ++
    (if ordered.isEmpty then ["        return cls()"] else
      ["        return cls("] ++
      ordered.map (fun f =>
        let key := Text.quote f.name false
        "            " ++ ident f ++ "=" ++
          (if f.optional then "data.get(" ++ key ++ ")" else "data[" ++ key ++ "]") ++ ",") ++
      ["        )"]) ++
    ["",
      "    def to_mapping(self) -> dict[str, Any]:",
      "        data: dict[str, Any] = \x7b\x7d"] ++
    fields.flatMap (fun f =>
      let store := "data[" ++ Text.quote f.name false ++ "] = self." ++ ident f
      if f.optional then
        ["        if self." ++ ident f ++ " is not None:", "            " ++ store]
      else ["        " ++ store]) ++
    ["        return data"])

/-- The base classes of an enum. -/
def enumBase (kind : EnumValueKind) (cases : List EnumCase) : String :=
  match kind with
  | .string => "str, Enum"
  | .number => if cases.all EnumCase.isInteger then "IntEnum" else "float, Enum"

/-- The class for an enum. -/
def enumText (name : String) (kind : EnumValueKind) (cases : List EnumCase) : String :=
  "class " ++ name ++ "(" ++ enumBase kind cases ++ "):\n" ++
    (if cases.isEmpty then "    pass" else "") ++
    "\n".intercalate (cases.map fun c =>
      "    " ++ safeIdent reserved (Text.shoutySnakeCase c.name) ++ " = " ++ literalText c.value)

/-- A declaration without its documentation. -/
def declarationBody (d : Declaration) : Except Error String :=
  match d.body with
  | .record fields => .ok (recordText d.name fields)
  | .enumeration cases =>
    (casesKind d.name none cases).map fun kind => enumText d.name kind cases
  | .alias type => .ok (d.name ++ ": TypeAlias = \"" ++ typeText type ++ "\"")

/-- A declaration behind its documentation. -/
def declarationText (d : Declaration) : Except Error String :=
  (declarationBody d).map (documented d.docs .hash)

/-! ## Modules and packages -/

/-- The reference by which one file imports another: a dot for its own package, a further one for
each package above, and the way down from there. -/
def importModule (source target : String) : String :=
  let here := directorySegments source
  let there := Text.splitOn '/' ((Text.stripEnd? target ".py").getD target)
  let common := commonLength here there.dropLast
  String.join (List.replicate (1 + here.length - common) ".") ++
    ".".intercalate (there.drop common)

/-- The directories above a file, nearest first, the output directory (the empty path) last. They are
found by cutting the last segment off the reversed path again and again. -/
def ancestors : List Char → List String
  | [] => [""]
  | c :: rest => if c = '/' ∧ rest ≠ [] then String.ofList rest.reverse :: ancestors rest
    else ancestors rest

/-- The path of the marker that makes a directory a package. -/
def markerPath (dir : String) : String :=
  if dir.isEmpty then "__init__.py" else dir ++ "/__init__.py"

/-- The text of a package marker. -/
def markerText : String :=
  unlines [
    "# This is an auto generated code. This code should not be modified since the file can be overwritten",
    "# if new rpcgen commands are executed."]

/-- A package marker for every directory that holds or contains a module, if it has none; in order of
the directories. -/
def packageMarkers (files : List OutputFile) : List OutputFile :=
  let modules := files.filter fun f => Text.endsWith f.path ".py"
  let dirs := (sortedTable ((modules.flatMap fun f => ancestors f.path.toList.reverse).map
    fun dir => (dir, ()))).map (·.1)
  ((dirs.map markerPath).filter fun path => !files.any fun f => f.path == path).map
    fun path => ⟨path, markerText, none⟩

/-! ## Files -/

/-- A parameter list. Only parameters that end the list can have defaults. -/
def paramsText (params : List Parameter) : String :=
  commaSeparated (((params.zip (paramIdents reserved params)).zip (trailingOptional params)).map
    fun ((p, ident), trailing) =>
      match trailing, p.defaultValue with
      | true, some value => ident ++ ": " ++ typeText p.type ++ " = " ++ literalText value
      | true, none => ident ++ ": " ++ optionalText (typeText p.type) ++ " = None"
      | false, _ => ident ++ ": " ++ typeText p.type)

/-- The lines that every file with declarations begins with. -/
def preamble : List String := [
  "\"\"\"",
  "This is an auto generated code. This code should not be modified since the file can be overwritten",
  "if new rpcgen commands are executed.",
  "\"\"\"",
  "",
  "from __future__ import annotations",
  "",
  "from collections.abc import Mapping",
  "from datetime import datetime",
  "from enum import Enum, IntEnum",
  "from typing import Any, TypeAlias"]

/-- The statement that imports from one file. -/
def importLine (path : String) (i : Import) : String :=
  "from " ++ importModule path i.file ++ " import " ++ commaSeparated i.names

/-- The lines of a method. -/
def methodLines (className : String) (m : Method) : List String :=
  let returns := m.returns.awaited
  let call := className ++ ".remote.call(\"" ++ qualifiedName className m.name ++ "\", [" ++
    commaSeparated (paramIdents reserved m.params) ++ "])"
  ["",
    "    @staticmethod",
    "    def " ++ safeIdent reserved m.name ++ "(" ++ paramsText m.params ++ ") -> " ++
      typeText returns ++ ":"] ++
  docLines m.docs .docstring "        " ++
  (if returns.isVoid then ["        " ++ call] else
    ["        response = " ++ call,
      "        return " ++ (hydrated? "response" 0 returns).getD "response"])

/-- The text of a client. -/
def clientText (s : Service) (file : FilePlan) (_ : Metadata) : Except Error String := do
  let declarations ← file.declarations.mapM declarationText
  return unlines (
    preamble ++
    ["", "from " ++ importModule file.path "remote.py" ++ " import Remote"] ++
    file.imports.map (importLine file.path) ++
    declarations.flatMap (fun d => ["", "", d]) ++
    ["", "", "class " ++ s.api.name ++ ":"] ++
    docLines s.api.docs .docstring "    " ++
    ["    remote = Remote(\"" ++ remoteUrlPlaceholder ++ "\")"] ++
    s.api.exposedMethods.flatMap (methodLines s.api.name) ++
    ["", "", "__all__ = [\"" ++ s.api.name ++ "\", \"Remote\"]"])

/-- The text of a file that holds only declarations. -/
def modelText (file : FilePlan) (_ : Metadata) : Except Error String := do
  let declarations ← file.declarations.mapM declarationText
  return unlines (
    preamble ++
    (if file.imports.isEmpty then [] else [""]) ++
    file.imports.map (importLine file.path) ++
    declarations.flatMap (fun d => ["", "", d]))

/-- The Python emitter. -/
def emitter : Emitter where
  target := .python
  reserved := reserved
  clientPath className := Text.snakeCase className ++ ".py"
  modelPath modulePath := safeModulePath modulePath ++ ".py"
  runtimePath := "remote.py"
  emitsDeclarations := true
  typeText := typeText
  declarationText := declarationText
  clientText := clientText
  modelText := modelText
  runtimeText := pythonRuntimeText
  companions := packageMarkers

end ServiceStubs.Python
