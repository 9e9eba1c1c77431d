import ServiceStubs.Source.Documentation
import ServiceStubs.Source.Trivia

/-!
# Tokens

A token is a lexeme in its place: with the text from its first character on, the text after it, and what
stands before it. The position of a token is told by the text from its first character on, as all
these texts are ends of one source text.

Main definitions:

* `Token.first` is the first token of a source text;
* `Token.next` is the token after another;
* `Token.after` is the first token of any text inside of the source text.
-/

namespace ServiceStubs.Source

/-- A lexeme in its place. -/
structure Token where
  lexeme : Lexeme
  /-- The text from the first character of the lexeme on. -/
  start : List Char
  /-- The text after the lexeme. -/
  rest : List Char
  /-- Whether a line ends between the token before and this one. -/
  afterLineBreak : Bool
  /-- The documentation in the comments that lead the token. -/
  docs : Option String

instance : Inhabited Token := ⟨⟨.endOfText, [], [], false, none⟩⟩

/-- The first token of `text`. `belongsBefore` says that comments on the same line belong to what stands
before the text. -/
def Token.after (belongsBefore : Bool) (text : List Char) : Token :=
  let trivia := skipTrivia belongsBefore text
  let docs := documentationOf trivia.comments
  let (lexeme, start, rest) := Lexeme.read trivia.rest
  ⟨lexeme, start, rest, trivia.lineBreak, docs⟩

/-- The token after another. -/
def Token.next (t : Token) : Token :=
  .after t.lexeme.keepsComments t.rest

/-- A text without the byte order mark at its beginning. -/
def dropByteOrderMark : List Char → List Char
  | c :: rest => if c.toNat = 0xFEFF then rest else c :: rest
  | [] => []

/-- A source text without the line at its beginning that names an interpreter. -/
def dropInterpreterLine : List Char → List Char
  | '#' :: '!' :: rest => rest.dropWhile fun c => !isLineEnd c
  | text => text

/-- The first token of a source text. -/
def Token.first (text : List Char) : Token :=
  .after false (dropInterpreterLine text)

end ServiceStubs.Source
