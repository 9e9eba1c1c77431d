import ServiceStubs.Text.Blank

/-!
# Documentation comments

A block comment whose text starts with an asterisk documents what follows it. Its documentation is the
text without the asterisks at the beginning of its lines and without blank lines around it.

Main definitions:

* `documentation?` is the documentation in one comment;
* `documentationOf` is the documentation that a list of comments gives to what follows them.
-/

namespace ServiceStubs.Source

open Text

/-- A line of a comment without its leading asterisk and the blanks around it. -/
def commentLine (line : String) : String :=
  match trim line.toList with
  | '*' :: rest => String.ofList (trim rest)
  | rest => String.ofList (trim rest)

/-- The lines without the empty ones at either end. -/
def dropEmptyEnds (lines : List String) : List String :=
  ((lines.dropWhile (· = "")).reverse.dropWhile (· = "")).reverse

/-- The text in a comment, given what stands between its marks. -/
def commentText? (comment : String) : Option String :=
  match dropEmptyEnds ((lines comment).map commentLine) with
  | [] => none
  | lines => some ("\n".intercalate lines)

/-- The documentation in a block comment, given what stands between its marks. -/
def documentation? (comment : String) : Option String :=
  if comment.toList.head? = some '*' then commentText? comment else none

/-- The documentation that the comments in front of something give it: of several comments the last one
that says something counts. -/
def documentationOf (comments : List String) : Option String :=
  (comments.filterMap documentation?).getLast?

end ServiceStubs.Source
