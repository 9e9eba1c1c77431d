import ServiceStubs.Service
import ServiceStubs.Source.Grammar
import ServiceStubs.Source.ModulePath
import ServiceStubs.Text.Letter

/-!
# Modules

A module is a source file that has been read. It declares types, imports names from other modules and
exports names to them.

Main definitions:

* `Module.definition?` finds a declaration by its name;
* `Module.importOf?` and `Module.exportAlias?` tell where a name that is not declared here comes from;
* `Module.exportedClasses` are the classes that can become services.
-/

namespace ServiceStubs.Source

/-- A source file that has been read. -/
structure Module where
  path : String
  language : SourceLanguage
  items : List Item

/-- Reads a source file. Its extension tells its language. -/
def Module.read (path text : String) : Except Error Module :=
  match SourceLanguage.ofExtension? (extensionOf path) with
  | none => .error (.unsupportedSource path)
  | some language =>
    match readItems (language = .typeScript) text with
    | .ok items => .ok ⟨path, language, items⟩
    | .error position => .error (.syntaxError path position.line position.column)

/-- The identity of a module. -/
def Module.modulePath (m : Module) : String :=
  modulePathOf m.path

/-! ## Declarations -/

/-- A declaration with its documentation. -/
structure Documented where
  definition : Definition
  docs : Option String

/-- The declaration that a statement makes under a name. A default class without a name has the name
`default`. -/
def Item.definition? (name : String) : Item → Option Documented
  | .definition found docs => if found.name = name then some ⟨found, docs⟩ else none
  | .exported found docs _ => if found.name = name then some ⟨found, docs⟩ else none
  | .exportedDefault (.classDefinition className body) docs _ =>
    if className.getD "default" = name then some ⟨.classDefinition name body, docs⟩ else none
  | .exportedDefault (.interface body) docs _ =>
    if body.name = name then some ⟨.interface body, docs⟩ else none
  | _ => none

/-- The declaration of a name at the top of a module, exported or not. -/
def Module.definition? (m : Module) (name : String) : Option Documented :=
  m.items.findSome? (Item.definition? name)

/-! ## Imports and exports -/

/-- Where a name comes from: the specifier of another module and the name there. -/
structure Origin where
  specifier : String
  name : String
deriving DecidableEq, Repr

/-- Where the statement imports a name from. -/
def Item.importOf? (name : String) : Item → Option Origin
  | .imports names specifier =>
    (names.find? fun n => n.localName = name).map fun n => ⟨specifier, n.imported⟩
  | _ => none

/-- Where a name that the module imports comes from. -/
def Module.importOf? (m : Module) (name : String) : Option Origin :=
  m.items.findSome? (Item.importOf? name)

/-- What an exported name stands for: a name of the module itself, or one of another module. -/
inductive ExportAlias where
  | here (name : String)
  | elsewhere (origin : Origin)
deriving DecidableEq, Repr

/-- What an exported name stands for by the statement. -/
def Item.exportAlias? (name : String) : Item → Option ExportAlias
  | .exportedNames names specifier =>
    (names.find? fun n => n.exported = name).map fun n =>
      match specifier with
      | some specifier => .elsewhere ⟨specifier, n.localName⟩
      | none => .here n.localName
  | .exportedDefaultName localName => if name = "default" then some (.here localName) else none
  | _ => none

/-- What a name stands for that the module exports without declaring it. -/
def Module.exportAlias? (m : Module) (name : String) : Option ExportAlias :=
  m.items.findSome? (Item.exportAlias? name)

/-- The modules whose exports the module exports as its own. -/
def Module.exportedAll (m : Module) : List String :=
  m.items.filterMap fun
    | .exportedAll specifier => some specifier
    | _ => none

/-! ## Exported classes -/

/-- A class that a module exports. -/
structure ExportedClass where
  name : String
  body : ClassSyntax
  docs : Option String

/-- A text with its first letter in upper case. -/
def capitalized (text : String) : String :=
  match text.toList with
  | [] => "Default"
  | c :: rest => String.ofList (Text.toUpper c ++ rest)

/-- The name of a default class that has none: the name of its file. -/
def Module.defaultClassName (m : Module) : String :=
  capitalized ((Text.splitOn '/' m.modulePath).getLastD "")

/-- The classes that are exported where they are declared. -/
def Module.classesExportedInline (m : Module) : List ExportedClass :=
  m.items.filterMap fun
    | .exported (.classDefinition name body) docs innerDocs => some ⟨name, body, docs <|> innerDocs⟩
    | .exportedDefault (.classDefinition name body) docs innerDocs =>
      some ⟨name.getD m.defaultClassName, body, docs <|> innerDocs⟩
    | _ => none

/-- The names that are exported apart from their declarations. -/
def Module.namesExportedApart (m : Module) : List String :=
  m.items.flatMap fun
    | .exportedDefaultName name => [name]
    | .exportedNames names none => names.map (·.localName)
    | _ => []

/-- The class of a name, as an exported one. -/
def Module.classNamed? (m : Module) (name : String) : Option ExportedClass :=
  match m.definition? name with
  | some ⟨.classDefinition _ body, docs⟩ => some ⟨name, body, docs⟩
  | _ => none

/-- The classes with one more, if it is not among them and is a class of the module. -/
def Module.withClass (m : Module) (classes : List ExportedClass) (name : String) : List ExportedClass :=
  if classes.any fun c => c.name = name then classes else classes ++ (m.classNamed? name).toList

/-- The classes that a module exports: those exported inline, then those exported by name. -/
def Module.exportedClasses (m : Module) : List ExportedClass :=
  m.namesExportedApart.foldl m.withClass m.classesExportedInline

end ServiceStubs.Source
