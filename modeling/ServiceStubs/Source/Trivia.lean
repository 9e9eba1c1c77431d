import ServiceStubs.Source.Lexeme
import ServiceStubs.Text.Blank

/-!
# Between lexemes

Blanks, line breaks and comments separate lexemes. A block comment belongs to the lexeme before it if
it follows on the same line and that lexeme can end a phrase; otherwise it leads the next one.

`skipTrivia` skips them and keeps what the grammar and the documentation need of them.
-/

namespace ServiceStubs.Source

/-- What stands between two lexemes. -/
structure Trivia where
  /-- Whether a line ends there. -/
  lineBreak : Bool
  /-- The block comments that lead the next lexeme, in order. -/
  comments : List String
  rest : List Char

/-- Whether a character is blank in source texts. The byte order mark is. -/
def isSourceBlank (c : Char) : Bool :=
  c.toNat == 0xFEFF || (c.toNat != 0x85 && Text.isBlank c)

/-- A place between lexemes. -/
inductive TriviaPlace where
  | blank
  | lineComment
  /-- Inside a block comment, with its characters so far, the last one first. -/
  | blockComment (content : List Char)

/-- Skips blanks and comments. `belongsBefore` says that comments on the line of the lexeme before belong
to it. A comment that is never closed reaches to the end of the text. -/
def skipTriviaFrom (belongsBefore : Bool) (place : TriviaPlace) (lineBreak : Bool)
    (comments : List String) (text : List Char) : Trivia :=
  match place, text with
  | _, [] => ⟨lineBreak, comments.reverse, []⟩
  | .blank, '/' :: '/' :: rest => skipTriviaFrom belongsBefore .lineComment lineBreak comments rest
  | .blank, '/' :: '*' :: rest =>
    skipTriviaFrom belongsBefore (.blockComment []) lineBreak comments rest
  | .blank, c :: rest =>
    if isLineEnd c then skipTriviaFrom belongsBefore .blank true comments rest
    else if isSourceBlank c then skipTriviaFrom belongsBefore .blank lineBreak comments rest
    else ⟨lineBreak, comments.reverse, text⟩
  | .lineComment, c :: rest =>
    if isLineEnd c then skipTriviaFrom belongsBefore .blank true comments rest
    else skipTriviaFrom belongsBefore .lineComment lineBreak comments rest
  | .blockComment content, '*' :: '/' :: rest =>
    -- A comment behind something on the same line documents that, not what follows.
    let leads := lineBreak || !belongsBefore
    let comments := if leads then String.ofList content.reverse :: comments else comments
    skipTriviaFrom belongsBefore .blank (lineBreak || content.any isLineEnd) comments rest
  | .blockComment content, c :: rest =>
    skipTriviaFrom belongsBefore (.blockComment (c :: content)) lineBreak comments rest
termination_by text.length

/-- Skips blanks and comments after a lexeme. -/
def skipTrivia (belongsBefore : Bool) (text : List Char) : Trivia :=
  skipTriviaFrom belongsBefore .blank false [] text

/-- Whether a lexeme keeps the comments that follow it on its line. -/
def Lexeme.keepsComments : Lexeme → Bool
  | .word name escaped =>
    escaped || !(reservedWords.contains name || semiReservedWords.contains name)
  | .string _ | .number _ | .bigInteger => true
  | .mark text => text == ";" || text == "\x7b" || text == "\x7d"
  | .hiddenName | .invalid | .endOfText => false

end ServiceStubs.Source
