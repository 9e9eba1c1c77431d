import ServiceStubs.Text.Letter
import ServiceStubs.Text.Split

/-!
# Paths of generated files

Paths are relative to the output directory and have `/` between their segments.
-/

namespace ServiceStubs

/-- The length of the longest common beginning of two lists. -/
def commonLength : List String → List String → Nat
  | a :: as, b :: bs => if a = b then commonLength as bs + 1 else 0
  | _, _ => 0

/-- The segments of the directory that holds a file. -/
def directorySegments (path : String) : List String :=
  (Text.splitOn '/' path).dropLast

/-- The path of `target` as seen from the directory that holds `source`; it begins with `./` or
`../`. -/
def relativePath (source target : String) : String :=
  let here := directorySegments source
  let there := Text.splitOn '/' target
  let common := commonLength here there
  let ups := here.length - common
  (if ups = 0 then "./" else String.join (List.replicate ups "../")) ++
    "/".intercalate (there.drop common)

/-- The path of a module with only identifier characters in its segments. -/
def safeModulePath (modulePath : String) : String :=
  String.ofList (modulePath.toList.map fun c => if c = '/' ∨ Text.isWordChar c then c else '_')

end ServiceStubs
