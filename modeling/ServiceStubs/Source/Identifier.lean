import ServiceStubs.Source.Identifier.Tables

/-!
# Identifiers

Which characters make up identifiers, and which words cannot be identifiers.
-/

namespace ServiceStubs.Source

open Text (inRuns)

/-- Whether an identifier can begin with the character. -/
def startsIdentifier (c : Char) : Bool :=
  c.isAlpha || c == '_' || c == '$' || (128 ≤ c.toNat && inRuns identifierStartRuns c)

/-- Whether an identifier can go on with the character. -/
def continuesIdentifier (c : Char) : Bool :=
  c.isAlphanum || c == '_' || c == '$' || c.toNat == 0x200C || c.toNat == 0x200D ||
    (128 ≤ c.toNat && (inRuns identifierStartRuns c || inRuns identifierPartRuns c))

/-- Words that never name anything. -/
def reservedWords : List String :=
  ["break", "case", "catch", "class", "const", "continue", "debugger", "default", "delete", "do", "else",
    "enum", "export", "extends", "false", "finally", "for", "function", "if", "import", "in", "instanceof",
    "new", "null", "return", "super", "switch", "this", "throw", "true", "try", "typeof", "var", "void",
    "while", "with"]

/-- Words with a meaning of their own in some places, and no trailing comments. -/
def semiReservedWords : List String :=
  ["await", "let", "yield"]

/-- Whether a word can name something. -/
def isIdentifier (word : String) : Bool :=
  !reservedWords.contains word

end ServiceStubs.Source
