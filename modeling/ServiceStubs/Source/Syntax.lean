import ServiceStubs.Number.Double

/-!
# What a source file says

The syntax of a module, cut down to what signatures need: types, classes and their members, enums, and
the names that modules import and export. Statements and most expressions are read, so that the text
is known to be well formed, but leave no trace.

Main definitions:

* `TypeExpr` and `TypeMember` for types;
* `ClassSyntax`, `InterfaceSyntax`, `AliasSyntax`, `EnumSyntax`, joined in `Definition`;
* `Item` for the statements of a module.
-/

namespace ServiceStubs.Source

/-! ## Types -/

/-- Types that are words of the language. -/
inductive TypeKeyword where
  | string
  | number
  | bigint
  | boolean
  | any
  | unknown
  | object
  | void
  | never
  | null
  | undefined
  | symbol
  | intrinsic
deriving DecidableEq, Repr

/-- What kind of constant a literal type names. -/
inductive LiteralType where
  | string
  | number
  | boolean
  | bigint
deriving DecidableEq, Repr

/-- How a member of a type or class is named. -/
inductive MemberName where
  /-- An identifier or a string. -/
  | named (name : String)
  | number
  | computed
  /-- A name with `#`, seen inside the class only. -/
  | hidden
deriving DecidableEq, Repr

mutual

/-- A type as it is written. -/
inductive TypeExpr where
  | keyword (word : TypeKeyword)
  | array (item : TypeExpr)
  | reference (name : String) (arguments : List TypeExpr)
  | members (members : List TypeMember)
  | union (alternatives : List TypeExpr)
  | parenthesized (inner : TypeExpr)
  | readOnly (inner : TypeExpr)
  | literal (kind : LiteralType)
  /-- Anything that has no counterpart outside of its language. -/
  | other

/-- A member of a type in braces. -/
inductive TypeMember where
  | property (name : MemberName) (optional : Bool) (type : Option TypeExpr)
  | index (key value : Option TypeExpr)
  | other

end

instance : Inhabited TypeExpr := ⟨.other⟩

instance : Inhabited TypeMember := ⟨.other⟩

/-! ## Expressions -/

/-- An expression, as far as constants go. -/
inductive Expression where
  | identifier (name : String)
  | string (value : String)
  | number (value : Double)
  | boolean (value : Bool)
  | null
  | negated (inner : Expression)
  | parenthesized (inner : Expression)
  /-- An arrow function. No operator can follow it. -/
  | arrow
  | other
deriving Repr

instance : Inhabited Expression := ⟨.other⟩

/-! ## Classes -/

/-- What a parameter list says about one parameter. -/
inductive ParameterSyntax where
  | plain (name : String) (optional : Bool) (type : Option TypeExpr)
  | defaulted (name : String) (type : Option TypeExpr) (value : Expression)
  /-- A parameter that is taken apart or collects the rest. -/
  | pattern

instance : Inhabited ParameterSyntax := ⟨.pattern⟩

/-- What calling a member does. -/
inductive MethodKind where
  | method
  | getter
  | setter
deriving DecidableEq, Repr

/-- A function of a class. -/
structure MethodSyntax where
  kind : MethodKind
  /-- Whether the access modifier is `private`. -/
  isPrivate : Bool
  isStatic : Bool
  isAsync : Bool
  name : MemberName
  typeParameters : List String
  parameters : List ParameterSyntax
  returns : Option TypeExpr
  docs : Option String

/-- A field of a class. -/
structure PropertySyntax where
  isPrivate : Bool
  isStatic : Bool
  name : MemberName
  optional : Bool
  type : Option TypeExpr

/-- A member of a class. -/
inductive ClassMember where
  | method (method : MethodSyntax)
  | property (property : PropertySyntax)
  | other

instance : Inhabited ClassMember := ⟨.other⟩

/-- A class without its name. -/
structure ClassSyntax where
  typeParameters : List String
  members : List ClassMember

instance : Inhabited ClassSyntax := ⟨⟨[], []⟩⟩

/-! ## Declarations -/

/-- A name for a type. -/
structure AliasSyntax where
  name : String
  typeParameters : List String
  type : TypeExpr

/-- An interface. A base that is not a plain name is `none`. -/
structure InterfaceSyntax where
  name : String
  typeParameters : List String
  bases : List (Option String)
  members : List TypeMember

/-- A member of an enum. -/
structure EnumMember where
  name : String
  value : Option Expression

/-- An enum. -/
structure EnumSyntax where
  name : String
  members : List EnumMember

/-- A declaration that can stand behind the name of a type. -/
inductive Definition where
  | alias (parts : AliasSyntax)
  | interface (parts : InterfaceSyntax)
  | enumeration (parts : EnumSyntax)
  | classDefinition (name : String) (parts : ClassSyntax)

/-- The name a declaration declares. -/
def Definition.name : Definition → String
  | .alias a => a.name
  | .interface i => i.name
  | .enumeration e => e.name
  | .classDefinition name _ => name

/-! ## Modules -/

/-- A name that an import makes known. -/
structure ImportedName where
  localName : String
  /-- The name under which the other module exports it. -/
  imported : String
deriving DecidableEq, Repr

/-- A name that an export list makes known. -/
structure ExportedName where
  localName : String
  /-- The name under which it is known to other modules. -/
  exported : String
deriving DecidableEq, Repr

/-- What follows `export default`, if it is a declaration. -/
inductive DefaultDefinition where
  | classDefinition (name : Option String) (parts : ClassSyntax)
  | interface (parts : InterfaceSyntax)

/-- A statement of a module. Documentation is kept as it stands before the statement; `innerDocs` stands
between `export` and the class. -/
inductive Item where
  | imports (names : List ImportedName) (specifier : String)
  | definition (definition : Definition) (docs : Option String)
  | exported (definition : Definition) (docs innerDocs : Option String)
  | exportedDefault (definition : DefaultDefinition) (docs innerDocs : Option String)
  | exportedDefaultName (name : String)
  | exportedNames (names : List ExportedName) (specifier : Option String)
  | exportedAll (specifier : String)
  | other

instance : Inhabited Item := ⟨.other⟩

end ServiceStubs.Source
