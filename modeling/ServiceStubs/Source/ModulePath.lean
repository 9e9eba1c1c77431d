import ServiceStubs.Text.Split

/-!
# Paths of modules

Source files have paths relative to the project, with `/` between segments; segments `..` lead out of the
project. Imports name other modules by relative specifiers, which may leave out the extension.

Main definitions:

* `joinSpecifier` is the path that a specifier means in a file;
* `candidates` lists the files that such a path can name, in order of preference;
* `modulePathOf` is the identity of a module: its path without extension, inside of the output.
-/

namespace ServiceStubs.Source

/-! ## Relative specifiers -/

/-- Whether a specifier names a file of the project, and not a package. -/
def isRelative (specifier : String) : Bool :=
  Text.startsWith specifier "./" || Text.startsWith specifier "../"

/-- The directory that a segment leads to. Directories are lists of segments, the innermost first; a climb
above the outermost one is kept. -/
def enter (directory : List String) (segment : String) : List String :=
  if segment = "" ∨ segment = "." then directory
  else if segment = ".." then
    match directory with
    | [] => [".."]
    | innermost :: outer => if innermost = ".." then ".." :: directory else outer
  else segment :: directory

/-- The path that a specifier means in the file at `path`. -/
def joinSpecifier (path specifier : String) : String :=
  let directory := (Text.splitOn '/' path).dropLast.reverse
  "/".intercalate ((Text.splitOn '/' specifier).foldl enter directory).reverse

/-! ## Files of a module -/

/-- The extensions that an import can leave out, in order of preference. -/
def impliedExtensions : List String :=
  [".ts", ".mts", ".d.ts", ".js"]

/-- Whether a path ends as source files do. -/
def hasSourceExtension (path : String) : Bool :=
  [".ts", ".mts", ".js", ".mjs"].any (Text.endsWith path)

/-- The files that a path in an import can name, in order of preference. An extension `.js` also stands
for `.ts`, from which it is made; a path without extension can name a directory with an index file. -/
def candidates (path : String) : List String :=
  if hasSourceExtension path then
    match Text.stripEnd? path ".js" with
    | some stem => [path, stem ++ ".ts"]
    | none => [path]
  else
    impliedExtensions.map (path ++ ·) ++ impliedExtensions.map (path ++ "/index" ++ ·)

/-! ## Identities -/

/-- What stands for `..` in the identity of a module, so that nothing is written outside of the output
directory. -/
def parentSegment : String := "_parent"

/-- A path without the segments `.` at its beginning. -/
def dropHere : List Char → List Char
  | '.' :: '/' :: rest => dropHere rest
  | path => path

/-- The number of segments `..` at the beginning of a path, and the path without them. -/
def takeParents : List Char → Nat × List Char
  | '.' :: '.' :: '/' :: rest => ((takeParents rest).1 + 1, (takeParents rest).2)
  | path => (0, path)

/-- A path without the extension of its last segment. -/
def dropExtension (path : List Char) : List Char :=
  match path.reverse.dropWhile (fun c => c != '.' && c != '/') with
  | '.' :: stem => stem.reverse
  | _ => path

/-- The extension of a path: what follows its last dot. -/
def extensionOf (path : String) : String :=
  String.ofList (path.toList.reverse.takeWhile (· != '.')).reverse

/-- The identity of the module in a file: its path without extension, with a name in place of each
segment `..` at the beginning. -/
def modulePathOf (path : String) : String :=
  let (parents, rest) := takeParents (dropHere path.toList)
  let stem := String.ofList (dropExtension rest)
  String.join (List.replicate parents (parentSegment ++ "/")) ++
    (Text.stripEnd? stem ".d").getD stem

end ServiceStubs.Source
