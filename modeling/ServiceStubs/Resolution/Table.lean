import ServiceStubs.Service
import ServiceStubs.Source.Library

/-!
# The table of declarations

While types are resolved, a table collects the declarations that they mention, in the order in which they
are found. A declaration claims its place before its body is resolved, so that types may refer to
themselves.

Main definitions:

* `Table.claim` and `Table.finish` enter a declaration in two steps;
* `Table.declarations` lists what has been finished;
* `Resolve` is a computation with the table that can fail; what is in the table stays there.
-/

namespace ServiceStubs.Resolution

/-- The place of a declaration in the table. The kind is known before the declaration is. -/
structure Slot where
  key : DeclKey
  kind : DeclKind
  declaration : Option Declaration

/-- The declarations found so far, in order. -/
abbrev Table := List Slot

namespace Table

/-- The kind of the declaration that claimed a key. -/
def kind? (t : Table) (key : DeclKey) : Option DeclKind :=
  (t.find? fun s => s.key = key).map (·.kind)

/-- The table with a place for one more declaration. -/
def claim (t : Table) (key : DeclKey) (kind : DeclKind) : Table :=
  t ++ [⟨key, kind, none⟩]

/-- The table in which a declaration has taken its place. -/
def finish (t : Table) (declaration : Declaration) : Table :=
  t.map fun s => if s.key = declaration.key then { s with declaration := some declaration } else s

/-- The table without the places of declarations that were never finished. -/
def dropUnfinished (t : Table) : Table :=
  t.filter fun s => s.declaration.isSome

/-- The finished declarations, in the order in which they were found. -/
def declarations (t : Table) : List Declaration :=
  t.filterMap (·.declaration)

end Table

/-- A computation with the table of declarations. -/
abbrev Resolve := ExceptT Error (StateM Table)

/-- What stays the same while the types of a class are resolved. -/
structure Scope where
  library : Source.Library
  /-- Whether types that cannot be found are taken for any value. -/
  lenient : Bool

/-- The result of a search, as a computation that can fail. -/
def ofSearch {μ : Type → Type} [Monad μ] [MonadExceptOf Error μ] {α : Type} (result : Except Error α) : μ α :=
  match result with
  | .ok a => pure a
  | .error e => throw e

end ServiceStubs.Resolution
