import ServiceStubs.Resolution.Table

/-!
# What types mean

The types of source files as types of values. Types without a counterpart mean any value. A few names have
a meaning of their own; all others are left to a resolver of names.

Main definitions:

* `meaning` is the type that a type expression means;
* `fieldsOf` are the fields that the members of a type declare.
-/

namespace ServiceStubs.Resolution

open Source

/-- What words mean as types. -/
def keywordMeaning : TypeKeyword → DataType
  | .string => .string
  | .number => .double
  | .bigint => .integer
  | .boolean => .boolean
  | .any | .unknown | .object | .symbol | .intrinsic => .any
  | .void | .never => .void
  | .null | .undefined => .null

/-- What types of constants mean. -/
def literalMeaning : LiteralType → DataType
  | .string => .string
  | .number => .double
  | .boolean => .boolean
  | .bigint => .integer

/-- The meaning of a name with a meaning of its own, for its arguments. -/
def builtin? (name : String) (arguments : List DataType) : Option DataType :=
  let first := arguments.head?.getD .any
  let second := (arguments.drop 1).head?.getD .any
  match name with
  | "Array" | "ReadonlyArray" => some (.array first)
  | "Promise" => some (.promise first)
  | "Date" => some .date
  | "Record" | "Map" => some (.map first second)
  | _ => none

/-- How names are resolved: as seen from a module. -/
abbrev NameResolver (μ : Type → Type := Resolve) := Module → String → μ DataType

variable {μ : Type → Type} [Monad μ] [MonadExceptOf Error μ]

mutual

/-- The type that a type expression means in a module. Type parameters mean any value. -/
def meaning (resolve : NameResolver μ) (m : Module) (generics : List String) :
    TypeExpr → μ DataType
  | .keyword word => return keywordMeaning word
  | .array item => return .array (← meaning resolve m generics item)
  | .reference name arguments =>
    -- A type parameter is known to callers only, so nothing is known here.
    if generics.contains name then return .any
    else do
      -- The arguments are read also for a name that ignores them: what they mention is declared too.
      let meanings ← meanings resolve m generics arguments
      match builtin? name meanings with
      | some type => return type
      | none => resolve m name
  | .members [.index key value] => do
    let key ← meaning? resolve m generics key
    return .map key (← meaning? resolve m generics value)
  | .members members => return .record (← fieldsOf resolve m generics members)
  | .union alternatives => return .union (← meanings resolve m generics alternatives)
  | .parenthesized inner => meaning resolve m generics inner
  | .readOnly inner => meaning resolve m generics inner
  | .literal kind => return literalMeaning kind
  | .other => return .any

/-- The meaning of a type that may be missing. -/
def meaning? (resolve : NameResolver μ) (m : Module) (generics : List String) :
    Option TypeExpr → μ DataType
  | some type => meaning resolve m generics type
  | none => return .any

/-- The meanings of types, from left to right. -/
def meanings (resolve : NameResolver μ) (m : Module) (generics : List String) :
    List TypeExpr → μ (List DataType)
  | [] => return []
  | type :: rest => do
    let first ← meaning resolve m generics type
    return first :: (← meanings resolve m generics rest)

/-- The fields that the members of a type declare. Members that are no properties have no counterpart. -/
def fieldsOf (resolve : NameResolver μ) (m : Module) (generics : List String) :
    List TypeMember → μ (List Field)
  | [] => return []
  | .property .computed _ _ :: _ => throw (.unsupportedSyntax m.path .computedProperty)
  | .property (.named name) optional type :: rest => do
    let type ← meaning? resolve m generics type
    return ⟨name, optional, type⟩ :: (← fieldsOf resolve m generics rest)
  | .property _ _ _ :: _ => throw (.unsupportedSyntax m.path .propertyKey)
  | .index _ _ :: rest => fieldsOf resolve m generics rest
  | .other :: rest => fieldsOf resolve m generics rest

end

end ServiceStubs.Resolution
