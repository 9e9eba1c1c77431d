import ServiceStubs.Source.Module

/-!
# Libraries of modules

The source files among which imports are followed.

Main definitions:

* `Library.ofFiles` is the library of a list of files;
* `Library.load?` is the module that a specifier means in another module.
-/

namespace ServiceStubs.Source

/-- The modules that imports can reach, by path. -/
structure Library where
  find? : String → Option (Except Error Module)
  /-- A bound on the number of declarations of all modules. -/
  size : Nat

/-- The number of statements of a module that could be read. -/
def statementCount : Except Error Module → Nat
  | .ok m => m.items.length
  | .error _ => 0

/-- The library of modules with the given paths. -/
def Library.ofModules (modules : List (String × Except Error Module)) : Library :=
  { find? := fun path => modules.lookup path
    size := modules.foldl (fun total (_, m) => total + statementCount m) 0 }

/-- The library of files with the given paths and texts. -/
def Library.ofFiles (files : List (String × String)) : Library :=
  .ofModules (files.map fun (path, text) => (path, Module.read path text))

/-- The library in which a module stands at its own path. -/
def Library.insert (l : Library) (m : Module) : Library :=
  { find? := fun path => if path = m.path then some (.ok m) else l.find? path
    size := l.size + m.items.length }

/-- The module that a specifier means in `m`. There is none for packages and missing files. -/
def Library.load? (l : Library) (m : Module) (specifier : String) : Except Error (Option Module) :=
  if isRelative specifier then
    match (candidates (joinSpecifier m.path specifier)).findSome? l.find? with
    | none => .ok none
    | some (.ok found) => .ok (some found)
    | some (.error e) => .error e
  else .ok none

end ServiceStubs.Source
