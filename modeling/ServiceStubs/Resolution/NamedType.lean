import ServiceStubs.Resolution.Constant
import ServiceStubs.Resolution.Location
import ServiceStubs.Resolution.TypeMeaning

/-!
# Named types

What a name means as a type: a reference to the declaration that it stands for, which is entered into the
table of declarations when it is met for the first time.

The resolver of names calls itself for the names inside of a declaration, after that declaration has
claimed its place. A budget as large as the number of declarations is therefore never used up.

Main definitions:

* `definitionBody` is the body of a declaration, given a resolver of names;
* `resolveWith` is the meaning of a name, given the bodies of declarations;
* `resolveNamed` is the resolver of names.
-/

namespace ServiceStubs.Resolution

open Source

/-! ## Bodies of declarations -/

/-- The members of a type that is a record. A single index signature makes a map instead. -/
def recordMembers? : TypeExpr → Option (List TypeMember)
  | .members [.index _ _] => none
  | .members members => some members
  | _ => none

/-- What kind of declaration a definition makes. -/
def kindOf : Definition → DeclKind
  | .enumeration _ => .enumeration
  | .interface _ | .classDefinition _ _ => .record
  | .alias a => if (recordMembers? a.type).isSome then .record else .alias

variable {μ : Type → Type} [Monad μ] [MonadExceptOf Error μ]

/-- The fields that objects of a class have. Fields of the class itself, private ones and methods are not
among them. -/
def classFields (resolve : NameResolver μ) (owner : Module) (generics : List String) :
    List ClassMember → μ (List Field)
  | [] => return []
  | .property p :: rest =>
    if p.isStatic || p.isPrivate then classFields resolve owner generics rest
    else
      match p.name with
      | .named name => do
        let type ← meaning? resolve owner generics p.type
        return ⟨name, p.optional, type⟩ :: (← classFields resolve owner generics rest)
      | _ => throw (.unsupportedSyntax owner.path .computedField)
  | .method _ :: rest => classFields resolve owner generics rest
  | .other :: rest => classFields resolve owner generics rest

/-- The fields that a base adds to an interface. `inherit` gives the fields of a base that is an interface
itself; it is missing where no more bases are followed. A base that is not a plain name adds nothing. -/
def baseFields (scope : Scope) (resolve : NameResolver μ)
    (inherit? : Option (Module → InterfaceSyntax → μ (List Field))) (owner : Module) :
    Option String → μ (List Field)
  | none => return []
  | some base => do
    let unknown := Error.unresolvedType base owner.path
    match inherit? with
    | none => throw unknown
    | some inherit =>
      match ← ofSearch (locate scope.library owner base) with
      | none => throw unknown
      | some location =>
        match (location.module.definition? location.name).map Documented.definition with
        | some (.interface i) => inherit location.module i
        | some (.alias a) =>
          match a.type with
          | .members members => fieldsOf resolve location.module a.typeParameters members
          | _ => return []
        | some (.classDefinition _ body) =>
          -- The fields of a base class are its own: what that class extends is not followed.
          classFields resolve location.module body.typeParameters body.members
        | _ => return []

/-- Inherited fields, without those that are declared again, and then a declaration's own fields. -/
def overridden (inherited own : List Field) : List Field :=
  (inherited.filter fun f => own.all fun o => o.name ≠ f.name) ++ own

/-- The fields of an interface, inherited ones first. At most `depth` bases are followed one after
another. -/
def interfaceFields (scope : Scope) (resolve : NameResolver μ) (depth : Nat) (owner : Module)
    (i : InterfaceSyntax) : μ (List Field) := do
  let inherit? := match depth with
    | 0 => none
    | depth + 1 => some (interfaceFields scope resolve depth)
  let inherited ← i.bases.mapM (baseFields scope resolve inherit? owner)
  let own ← fieldsOf resolve owner i.typeParameters i.members
  return overridden inherited.flatten own

/-- The body of a declaration in a module. -/
def definitionBody (scope : Scope) (resolve : NameResolver μ) (owner : Module) :
    Definition → μ DeclBody
  | .enumeration e => return .enumeration (← ofSearch (enumCases owner.path e))
  | .alias a =>
    match recordMembers? a.type with
    | some members => return .record (← fieldsOf resolve owner a.typeParameters members)
    | none => return .alias (← meaning resolve owner a.typeParameters a.type)
  | .interface i => return .record (← interfaceFields scope resolve longestChain owner i)
  | .classDefinition _ body =>
    return .record (← classFields resolve owner body.typeParameters body.members)

/-! ## Names -/

/-- What a name means that no declaration could be found for. A package has no source to look into, so its
types mean any value. -/
def unknownMeaning (scope : Scope) (m : Module) (name : String) : Except Error DataType :=
  let fromPackage := (m.importOf? name).any fun origin => !isRelative origin.specifier
  if fromPackage || scope.lenient then .ok .any else .error (.unresolvedType name m.path)

/-- The meaning of a name as seen from a module. If its declaration is met for the first time, it claims its
place, then `body` looks at it, and then it takes the place. -/
def resolveWith [MonadStateOf Table μ] (scope : Scope) (body : Location → Definition → μ DeclBody) :
    NameResolver μ := fun m name => do
  let some location ← ofSearch (locate scope.library m name)
    | ofSearch (unknownMeaning scope m name)
  let owner := location.module
  let key : DeclKey := ⟨location.name, owner.modulePath⟩
  match (← get).kind? key, owner.definition? location.name with
  | some kind, _ => return .named ⟨key.name, key.modulePath, kind⟩
  | none, none => ofSearch (unknownMeaning scope m name)
  | none, some found =>
    let kind := kindOf found.definition
    -- The key is claimed before its body is read: a definition that mentions itself finds the claim and does
    -- not read its body again.
    modify fun t => t.claim key kind
    let body ← body location found.definition
    modify fun t => t.finish ⟨key.name, key.modulePath, body, found.docs⟩
    return .named ⟨key.name, key.modulePath, kind⟩

/-- The meaning of a name as seen from a module. The budget is the number of declarations that may still
claim a place. -/
def resolveNamed (scope : Scope) : Nat → NameResolver
  | 0 => fun m name => ofSearch (unknownMeaning scope m name)
  | budget + 1 =>
    resolveWith scope fun location found => definitionBody scope (resolveNamed scope budget) location.module found

/-- The resolver of names for a scope. -/
def Scope.resolve (scope : Scope) : NameResolver :=
  resolveNamed scope (scope.library.size + 1)

end ServiceStubs.Resolution
