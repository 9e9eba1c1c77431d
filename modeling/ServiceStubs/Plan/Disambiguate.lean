import ServiceStubs.Service
import ServiceStubs.Text.WordCase

/-!
# Telling declarations of one name apart

Targets with one flat namespace cannot hold two types of the same name. Where several modules declare
a name, each of these declarations, and every reference to it, gets the path of its module in front:
`User` of `src/a` becomes `SrcAUser`.
-/

namespace ServiceStubs

/-- The path of a module as the beginning of a name. -/
def qualifier (modulePath : String) : String :=
  Text.upperCamel (String.ofList (modulePath.toList.map fun c => if c = '/' then '_' else c))

/-- Whether `key` is declared, and its name is declared by another module too. -/
def isClashing (declared : List DeclKey) (key : DeclKey) : Bool :=
  declared.any (fun k => k = key) &&
    declared.any fun k => k.name == key.name && k.modulePath != key.modulePath

/-- The name under which a declaration goes when all of `declared` are in play. -/
def distinctName (declared : List DeclKey) (key : DeclKey) : String :=
  if isClashing declared key then qualifier key.modulePath ++ key.name else key.name

/-- A reference that follows its declaration to the new name. -/
def TypeRef.renamed (declared : List DeclKey) (r : TypeRef) : TypeRef :=
  { r with name := distinctName declared r.key }

/-- A declaration under its new name, with its references renamed. -/
def Declaration.renamed (declared : List DeclKey) (d : Declaration) : Declaration :=
  { d.mapReferences (TypeRef.renamed declared) with name := distinctName declared d.key }

/-- A service whose declarations have their new names. -/
def Service.renamed (declared : List DeclKey) (s : Service) : Service :=
  { s with
    api := { s.api with methods := s.api.methods.map (Method.mapReferences (.renamed declared)) }
    declarations := s.declarations.map (Declaration.renamed declared) }

/-- The keys that some services declare, in order. -/
def declaredKeys (services : List Service) : List DeclKey :=
  services.flatMap fun s => s.declarations.map Declaration.key

/-- The services with names that several modules declare made distinct. -/
def disambiguate (services : List Service) : List Service :=
  services.map (Service.renamed (declaredKeys services))

end ServiceStubs
