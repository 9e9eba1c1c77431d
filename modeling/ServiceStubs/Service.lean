import ServiceStubs.DataType
import ServiceStubs.Exposure
import ServiceStubs.Error
import ServiceStubs.Text.Quoted

/-!
# Services

A `Service` is what one source file offers: a class with its methods, and the declarations of all
types that the signatures mention. Clients for every target are written from it alone.

Main definitions:

* `Declaration` with `Declaration.references` and `Declaration.mapReferences`;
* `Declaration.enumValueKind` tells string enums from numeric ones, and refuses mixtures;
* `ServiceClass.exposedMethods` are the methods that clients have.
-/

namespace ServiceStubs

/-! ## Source languages -/

/-- The languages services are written in. -/
inductive SourceLanguage where
  | typeScript
  | javaScript
deriving DecidableEq, Repr

/-- The language of files with an extension. -/
def SourceLanguage.ofExtension? (ext : String) : Option SourceLanguage :=
  if ext = "ts" ∨ ext = "mts" then some .typeScript
  else if ext = "js" ∨ ext = "mjs" then some .javaScript
  else none

/-- The short name of a source language. -/
def SourceLanguage.label : SourceLanguage → String
  | .typeScript => "ts"
  | .javaScript => "js"

/-! ## Literals -/

/-- A constant of a source file. Numbers are kept as text. -/
inductive Literal where
  | string (value : String)
  | number (text : String)
  | boolean (value : Bool)
  | null
deriving DecidableEq, Repr

/-- The word for a truth value. -/
def boolText (b : Bool) : String :=
  if b then "true" else "false"

/-- A literal as a reader sees it. -/
def Literal.spelling : Literal → String
  | .string value => Text.shown value
  | .number text => text
  | .boolean value => boolText value
  | .null => "null"

/-! ## Declarations -/

/-- A member of an enum. -/
structure EnumCase where
  name : String
  value : Literal
deriving DecidableEq, Repr

/-- What a declaration says. -/
inductive DeclBody where
  | enumeration (cases : List EnumCase)
  | alias (type : DataType)
  | record (fields : List Field)

/-- A named type. -/
structure Declaration where
  name : String
  /-- Path of the declaring module without its extension. -/
  modulePath : String
  body : DeclBody
  docs : Option String

/-- The identity of a declaration. -/
def Declaration.key (d : Declaration) : DeclKey :=
  ⟨d.name, d.modulePath⟩

/-- The kind that a reference to the declaration has. -/
def DeclBody.kind : DeclBody → DeclKind
  | .enumeration _ => .enumeration
  | .alias _ => .alias
  | .record _ => .record

/-- The references in the body of a declaration, in order. -/
def Declaration.references (d : Declaration) : List TypeRef :=
  match d.body with
  | .enumeration _ => []
  | .alias type => type.references
  | .record fields => fields.flatMap fun f => f.type.references

/-- The declaration in which `f` has been applied to every reference of the body. -/
def Declaration.mapReferences (f : TypeRef → TypeRef) (d : Declaration) : Declaration :=
  match d.body with
  | .enumeration _ => d
  | .alias type => { d with body := .alias (type.mapReferences f) }
  | .record fields =>
    { d with
      body := .record (fields.map fun field =>
        ⟨field.name, field.optional, field.type.mapReferences f⟩) }

/-! ## Values of enums -/

/-- Kinds of enum values. -/
inductive EnumValueKind where
  | string
  | number
deriving DecidableEq, Repr

/-- The kind a literal has as the value of an enum member. -/
def Literal.enumValueKind? : Literal → Option EnumValueKind
  | .string _ => some .string
  | .number _ => some .number
  | .boolean _ => none
  | .null => none

/-- The kind of value that all cases of the enum `name` share, given the kind `seen` of those before.
An enum without cases counts as numeric. -/
def casesKind (name : String) (seen : Option EnumValueKind) :
    List EnumCase → Except Error EnumValueKind
  | [] => .ok (seen.getD .number)
  | c :: rest =>
    match c.value.enumValueKind?, seen with
    | none, _ => .error (.mixedEnum name)
    | some kind, none => casesKind name (some kind) rest
    | some kind, some before =>
      if kind = before then casesKind name seen rest else .error (.mixedEnum name)

/-- The kind of value that all cases of an enum share; `none` for other declarations. -/
def Declaration.enumValueKind (d : Declaration) : Except Error (Option EnumValueKind) :=
  match d.body with
  | .enumeration cases => (casesKind d.name none cases).map some
  | _ => .ok none

/-- Whether a number is written as a whole number that fits into 64 bits. -/
def isIntegerText (text : String) : Bool :=
  let (negative, digits) := match text.toList with
    | '-' :: rest => (true, rest)
    | '+' :: rest => (false, rest)
    | cs => (false, cs)
  !digits.isEmpty && digits.all Char.isDigit &&
    decide (digits.foldl (fun n c => 10 * n + (c.toNat - '0'.toNat)) 0 <
      Nat.pow 2 63 + if negative then 1 else 0)

/-- Whether the value of an enum member is a whole number. -/
def EnumCase.isInteger (c : EnumCase) : Bool :=
  match c.value with
  | .number text => isIntegerText text
  | _ => false

/-! ## Classes -/

/-- A parameter of a method. -/
structure Parameter where
  name : String
  type : DataType
  optional : Bool
  defaultValue : Option Literal

/-- A method of a service. -/
structure Method where
  name : String
  params : List Parameter
  returns : DataType
  exposure : Exposure
  docs : Option String

/-- The references in the signature of a method, in order. -/
def Method.references (m : Method) : List TypeRef :=
  m.params.flatMap (fun p => p.type.references) ++ m.returns.references

/-- The method in which `f` has been applied to every reference of the signature. -/
def Method.mapReferences (f : TypeRef → TypeRef) (m : Method) : Method :=
  { m with
    params := m.params.map fun p => { p with type := p.type.mapReferences f }
    returns := m.returns.mapReferences f }

/-- The class a service consists of. -/
structure ServiceClass where
  name : String
  methods : List Method
  docs : Option String

/-- The methods that clients have. -/
def ServiceClass.exposedMethods (c : ServiceClass) : List Method :=
  c.methods.filter fun m => m.exposure.isCallable

/-! ## Services -/

/-- What one source file offers. -/
structure Service where
  language : SourceLanguage
  /-- Path of the source file without its extension. -/
  modulePath : String
  api : ServiceClass
  declarations : List Declaration

/-- The references in the signatures of the exposed methods, in order. -/
def Service.exposedReferences (s : Service) : List TypeRef :=
  s.api.exposedMethods.flatMap Method.references

/-- The service in which `f` has been applied to every reference of a signature or declaration. -/
def Service.mapReferences (f : TypeRef → TypeRef) (s : Service) : Service :=
  { s with
    api := { s.api with methods := s.api.methods.map (Method.mapReferences f) }
    declarations := s.declarations.map (Declaration.mapReferences f) }

end ServiceStubs
