import ServiceStubs.Source.Library

/-!
# Where names are declared

A name is declared in its module or imported, and what a module exports can come from a third one. The
search follows imports and exports, at most `longestChain` of them.

Main definitions:

* `locate` finds the declaration of a name as a module sees it;
* `locateExport` finds the declaration of a name that a module exports.
-/

namespace ServiceStubs.Resolution

open Source

/-- A declaration in its module. -/
structure Location where
  module : Module
  name : String

/-- The greatest number of exports that are followed one after another. -/
def longestChain : Nat := 32

/-- The first thing found for a member of a list. -/
def firstFound {α β : Type} (search : α → Except Error (Option β)) : List α → Except Error (Option β)
  | [] => .ok none
  | a :: rest => do
    match ← search a with
    | some found => return some found
    | none => firstFound search rest

/-- Goes on with the module that a specifier means, if there is one. -/
def inModule {β : Type} (library : Library) (m : Module) (specifier : String)
    (search : Module → Except Error (Option β)) : Except Error (Option β) := do
  match ← library.load? m specifier with
  | some target => search target
  | none => return none

/-- The declaration of a name as a module sees it: its own, or the one it imports, which `search` finds. -/
def locateWith (library : Library) (search : Module → String → Except Error (Option Location))
    (m : Module) (name : String) : Except Error (Option Location) :=
  if (m.definition? name).isSome then .ok (some ⟨m, name⟩)
  else
    match m.importOf? name with
    | none => .ok none
    | some origin => inModule library m origin.specifier fun target => search target origin.name

/-- The declaration of a name that a module exports, at the end of a chain of at most `steps` exports. -/
def locateExport (library : Library) (steps : Nat) (m : Module) (name : String) :
    Except Error (Option Location) :=
  match steps with
  | 0 => .ok none
  | steps + 1 =>
    if (m.definition? name).isSome then .ok (some ⟨m, name⟩)
    else
      match m.exportAlias? name with
      | some (.here localName) =>
        locateWith library (fun target name =>
          match steps with
          | 0 => .ok none
          | steps + 1 => locateExport library steps target name) m localName
      | some (.elsewhere origin) =>
        inModule library m origin.specifier fun target => locateExport library steps target origin.name
      | none =>
        -- Modules that are exported as a whole come last and in order; the first that has the name is taken.
        firstFound (fun specifier =>
          inModule library m specifier fun target => locateExport library steps target name)
          m.exportedAll

/-- The declaration of a name as a module sees it. -/
def locate (library : Library) (m : Module) (name : String) : Except Error (Option Location) :=
  locateWith library (locateExport library longestChain) m name

end ServiceStubs.Resolution
