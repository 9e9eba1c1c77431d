import ServiceStubs.Error

/-!
# Target languages

The languages clients are written in. `Target.ofName` reads a language name as users write it.
-/

namespace ServiceStubs

/-- A language clients are written in. -/
inductive Target where
  | typeScript
  | javaScript
  | python
  | swift
  | dart
  | kotlin
  | go
deriving DecidableEq, Repr

/-- The full name of a target. -/
def Target.label : Target → String
  | .typeScript => "typescript"
  | .javaScript => "javascript"
  | .python => "python"
  | .swift => "swift"
  | .dart => "dart"
  | .kotlin => "kotlin"
  | .go => "go"

/-- The names a target goes by, all in lower case. -/
def Target.names : List (String × Target) :=
  [("ts", .typeScript), ("typescript", .typeScript), ("js", .javaScript), ("javascript", .javaScript),
   ("py", .python), ("python", .python), ("swift", .swift), ("dart", .dart), ("kt", .kotlin),
   ("kotlin", .kotlin), ("go", .go), ("golang", .go)]

/-- The target a user means; ASCII letters may be written in either case. -/
def Target.ofName (name : String) : Except Error Target :=
  match Target.names.lookup (String.ofList (name.toList.map Char.toLower)) with
  | some target => .ok target
  | none => .error (.unsupportedTarget name)

end ServiceStubs
