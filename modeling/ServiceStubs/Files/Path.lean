import ServiceStubs.Text.Split

/-!
# Paths of files

Paths as they are written, with `/` between segments. Repeated separators and segments `.` say nothing,
except for a `.` at the beginning of a relative path; they stay where they are written.

Main definitions:

* `fileName?` is the last segment of a path, if it is a name;
* `parent?` is the path without its last segment;
* `join` and `sibling` make new paths.
-/

namespace ServiceStubs.Files

/-- Whether a path begins at the root. -/
def isAbsolute (path : String) : Bool :=
  path.toList.head? = some '/'

/-- The segments of a path, the last one first. -/
def segmentsBackward (path : String) : List String :=
  (Text.splitOn '/' path).reverse

/-- Whether a segment says nothing, given whether others stand in front of it. -/
def isVoid (isFirst : Bool) (segment : String) : Bool :=
  segment = "" || (segment = "." && !isFirst)

/-- The segments, the last one first, without those at the end that say nothing. The root of an absolute
path counts as a segment that stays. -/
def dropVoid : List String → List String
  | [] => []
  | [first] => if first = "" then [] else [first]
  | segment :: rest => if isVoid false segment then dropVoid rest else segment :: rest

/-- The segments of a path after its root, the last one first, without those at the end that say
nothing. -/
def bodyBackward (path : String) : List String :=
  if isAbsolute path then
    (segmentsBackward path).dropLast.dropWhile (isVoid false)
  else dropVoid (segmentsBackward path)

/-- The last segment of a path, if it is a name. -/
def fileName? (path : String) : Option String :=
  (bodyBackward path).head?.filter fun s => s ≠ "." ∧ s ≠ ".."

/-- The path without its last segment. A path without segments has no parent. -/
def parent? (path : String) : Option String :=
  match bodyBackward path with
  | [] => none
  | _ :: outer =>
    some <|
      if isAbsolute path then
        "/" ++ "/".intercalate (outer.dropWhile (isVoid false)).reverse
      else "/".intercalate (dropVoid outer).reverse

/-- The path of a file as seen from a directory. -/
def join (directory path : String) : String :=
  if isAbsolute path ∨ directory = "" then path
  else if Text.endsWith directory "/" then directory ++ path
  else directory ++ "/" ++ path

/-- The path of something beside a file. -/
def sibling (path name : String) : String :=
  join ((parent? path).getD "") name

end ServiceStubs.Files
