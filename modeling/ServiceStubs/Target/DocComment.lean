import ServiceStubs.Text.Blank
import ServiceStubs.Text.Split

/-!
# Documentation in generated code

A description from the source file is repeated in the comment style of the target. Whatever would end
the comment early is escaped.
-/

namespace ServiceStubs

/-- The styles of documentation comments. -/
inductive DocStyle where
  /-- Between `/**` and `*/`, each line behind a star. -/
  | block
  /-- Each line behind three slashes. -/
  | tripleSlash
  /-- Each line behind two slashes. -/
  | doubleSlash
  /-- Each line behind a hash sign. -/
  | hash
  /-- Between triple quotation marks. -/
  | docstring
deriving DecidableEq, Repr

/-- The line that opens a comment, if the style has one. -/
def DocStyle.opening? : DocStyle → Option String
  | .block => some "/**"
  | .docstring => some "\"\"\""
  | _ => none

/-- What stands in front of every line of the text. -/
def DocStyle.lead : DocStyle → String
  | .block => " * "
  | .tripleSlash => "/// "
  | .doubleSlash => "// "
  | .hash => "# "
  | .docstring => ""

/-- The line that closes a comment, if the style has one. -/
def DocStyle.closing? : DocStyle → Option String
  | .block => some " */"
  | .docstring => some "\"\"\""
  | _ => none

/-- The text with everything escaped that would close the comment. -/
def DocStyle.escape (style : DocStyle) (text : String) : String :=
  match style with
  | .block => Text.replaceAll "*/" "*\\/" text
  | .docstring => Text.replaceAll "\"\"\"" "\\\"\"\"" (Text.replaceAll "\\" "\\\\" text)
  | _ => text

/-- A line without the blanks at its end. -/
def trimmedLine (line : String) : String :=
  String.ofList (Text.trimEnd line.toList)

/-- The description, if it says anything. -/
def meaningful? (docs : Option String) : Option String :=
  docs.filter fun text => !text.toList.all Text.isBlank

/-- The lines of the comment for a description, each behind `indent`; none where there is nothing to
say. -/
def docLines (docs : Option String) (style : DocStyle) (indent : String) : List String :=
  match meaningful? docs with
  | none => []
  | some text =>
    (style.opening?.map (indent ++ ·)).toList ++
      (Text.lines (style.escape text)).map (fun line => trimmedLine (indent ++ style.lead ++ line)) ++
      (style.closing?.map (indent ++ ·)).toList

/-- Generated code behind the comment that describes it. -/
def documented (docs : Option String) (style : DocStyle) (body : String) : String :=
  "\n".intercalate (docLines docs style "" ++ [body])

end ServiceStubs
