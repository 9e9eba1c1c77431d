import ServiceStubs.Source.Syntax
import ServiceStubs.Source.Token

/-!
# Reading phrases

A reader of phrases, a `Parse`, starts at a token and ends at a token, or fails at the text that cannot
go on. `Grammar` holds the readers of the phrases that occur inside of each other; a reader of one
phrase is written for any `Grammar`, and the knot is tied once all are known.

Main definitions:

* `Parse.attempt` and `Parse.either` try a phrase and go back;
* `Parse.collect`, `Parse.commaList` and `Parse.untilMark` read repeated phrases;
* `Parse.expectEnd` is the end of a statement, where a line break can stand for a semicolon.
-/

namespace ServiceStubs.Source

/-- A reader of phrases. A failure is the text from the first token on that cannot go on. -/
abbrev Parse := StateT Token (Except (List Char))

/-- What an expression stands in. -/
structure ExpressionPlace where
  /-- Whether `in` is an operator. It is not at the head of a loop. -/
  allowsIn : Bool
  /-- Whether the expression is the first branch of a conditional, so that a colon ends it. -/
  endsAtColon : Bool

/-- The place of an expression that nothing limits. -/
def ExpressionPlace.plain : ExpressionPlace := ⟨true, false⟩

/-- The readers of the phrases that occur inside of each other. -/
structure Grammar where
  /-- Whether the language has types. -/
  typed : Bool
  /-- A bound on the number of phrases that follow each other. -/
  bound : Nat
  type : Parse TypeExpr
  /-- A type of which no condition is asked: in a condition, the condition is that of the whole. -/
  unconditional : (inCondition : Bool) → Parse TypeExpr
  /-- An expression up to a comma. -/
  assignment : ExpressionPlace → Parse Expression
  /-- An operand of an operator, with the operators in front of it. -/
  operand : ExpressionPlace → Parse Expression
  /-- A value with the calls and member names after it, without operators. -/
  value : Parse Expression
  /-- What a variable declaration or parameter binds: a name, or none if the value is taken apart. -/
  target : Parse (Option String)
  /-- A statement, with the declaration that it is, if it is one. -/
  statement : Parse (Option Definition)
  /-- A statement of a module. -/
  item : Parse Item

namespace Parse

variable {α : Type}

/-! ## Failure -/

/-- Fails at a text. -/
def failAt (text : List Char) : Parse α := fun _ => .error text

/-- Fails at the current token. -/
def fail : Parse α := fun t => .error t.start

/-- The failure that lies further on. -/
def further (a b : List Char) : List Char :=
  if a.length ≤ b.length then a else b

/-- Reads a phrase, or nothing where it cannot be read. -/
def attempt (phrase : Parse α) : Parse (Option α) := fun t =>
  match phrase t with
  | .ok (a, after) => .ok (some a, after)
  | .error _ => .ok (none, t)

/-- Reads the first phrase, or the second where the first cannot be read. -/
def either (first second : Parse α) : Parse α := fun t =>
  match first t with
  | .ok result => .ok result
  | .error one =>
    match second t with
    | .ok result => .ok result
    | .error other => .error (further one other)

/-- Whether a phrase can be read. Nothing is consumed. -/
def canRead (phrase : Parse Bool) : Parse Bool := fun t =>
  match phrase t with
  | .ok (found, _) => .ok (found, t)
  | .error _ => .ok (false, t)

/-! ## Tokens -/

/-- The current lexeme. -/
def lexeme : Parse Lexeme := do
  return (← get).lexeme

/-- Goes on to the next token. -/
def advance : Parse Unit :=
  modify Token.next

/-- The lexeme after the current one. -/
def lexemeAfter : Parse Lexeme := do
  return (← get).next.lexeme

/-- Whether a line ends before the current token. -/
def afterLineBreak : Parse Bool := do
  return (← get).afterLineBreak

/-- Whether a lexeme is a mark. -/
def isMark (text : String) : Lexeme → Bool
  | .mark found => found == text
  | _ => false

/-- Whether a lexeme is a word, written without escapes. -/
def isWord (word : String) : Lexeme → Bool
  | .word found false => found == word
  | _ => false

/-- Whether a lexeme is a word of any kind. -/
def isAnyWord : Lexeme → Bool
  | .word _ _ => true
  | _ => false

/-- Whether a lexeme is a word that can name something. -/
def isName : Lexeme → Bool
  | .word name escaped => escaped || isIdentifier name
  | _ => false

/-- Whether the current token is a mark. -/
def atMark (text : String) : Parse Bool := do
  return isMark text (← lexeme)

/-- Whether the current token is a word. -/
def atWord (word : String) : Parse Bool := do
  return isWord word (← lexeme)

/-- Whether the current token is one of the words. -/
def atWordOf (words : List String) : Parse Bool := do
  let found ← lexeme
  return words.any fun word => isWord word found

/-- Whether the current token can name something. -/
def atName : Parse Bool := do
  return isName (← lexeme)

/-- Reads a mark, if it is there. -/
def skipMark (text : String) : Parse Bool := do
  if ← atMark text then
    advance
    return true
  else return false

/-- Reads a word, if it is there. -/
def skipWord (word : String) : Parse Bool := do
  if ← atWord word then
    advance
    return true
  else return false

/-- Reads one of the marks, if it is there. -/
def skipMarkOf (texts : List String) : Parse Bool := do
  let found ← lexeme
  if texts.any fun text => isMark text found then
    advance
    return true
  else return false

/-- Reads one of the words, if it is there. -/
def skipWordOf (words : List String) : Parse Bool := do
  if ← atWordOf words then
    advance
    return true
  else return false

/-- Reads a mark that must be there. -/
def expectMark (text : String) : Parse Unit := do
  unless ← skipMark text do fail

/-- Reads a word that must be there. -/
def expectWord (word : String) : Parse Unit := do
  unless ← skipWord word do fail

/-- Reads a word of any kind. -/
def anyWord : Parse String := do
  match ← lexeme with
  | .word name _ =>
    advance
    return name
  | _ => fail

/-- Reads a word that can name something. -/
def name : Parse String := do
  if ← atName then anyWord else fail

/-- Reads a string. -/
def stringValue : Parse String := do
  match ← lexeme with
  | .string value =>
    advance
    return value
  | _ => fail

/-! ## Repetition -/

/-- Reads phrases until there is none, at most `bound` of them. -/
def collect (bound : Nat) (phrase : Parse (Option α)) : Parse (List α) :=
  match bound with
  | 0 => fail
  | bound + 1 => do
    match ← phrase with
    | none => return []
    | some a => return a :: (← collect bound phrase)

/-- Reads phrases up to a mark, and the mark. -/
def untilMark (bound : Nat) (closing : String) (phrase : Parse α) : Parse (List α) :=
  collect bound do
    if ← skipMark closing then return none else return some (← phrase)

/-- Reads phrases up to a closing brace, and the brace. The end of the text stands for the brace. -/
def untilBrace (bound : Nat) (phrase : Parse α) : Parse (List α) :=
  collect bound do
    if (← skipMark "\x7d") || ((← lexeme) matches .endOfText) then return none
    else return some (← phrase)

/-- Reads phrases with commas between them up to a mark. A comma may stand after the last one. -/
def commaItems (bound : Nat) (closing : String) (phrase : Parse α) : Parse (List α) :=
  collect bound do
    if ← atMark closing then return none
    else
      let a ← phrase
      unless ← atMark closing do expectMark ","
      return some a

/-- Reads phrases with commas between them up to a mark, and the mark. -/
def commaList (bound : Nat) (closing : String) (phrase : Parse α) : Parse (List α) := do
  let items ← commaItems bound closing phrase
  expectMark closing
  return items

/-- Reads at least one phrase, with a mark between any two. -/
def separatedBy (bound : Nat) (mark : String) (phrase : Parse α) : Parse (List α) := do
  let first ← phrase
  let more ← collect bound do
    if ← skipMark mark then return some (← phrase) else return none
  return first :: more

/-! ## Ends of statements -/

/-- Whether a statement can end here. -/
def atEnd : Parse Bool := do
  let t ← get
  return t.afterLineBreak || isMark ";" t.lexeme || isMark "\x7d" t.lexeme ||
    t.lexeme matches .endOfText

/-- Reads the end of a statement: a semicolon, or nothing before a line break, a closing brace or the end
of the text. -/
def expectEnd : Parse Unit := do
  unless ← skipMark ";" do
    unless ← atEnd do fail

/-! ## Names of members -/

/-- The name of a class member or of a property, up to its end. Computed names are read by `computed`. -/
def memberName (computed : Parse Unit) : Parse MemberName := do
  match ← lexeme with
  | .word name _ =>
    advance
    return .named name
  | .string value =>
    advance
    return .named value
  | .number _ | .bigInteger =>
    advance
    return .number
  | .hiddenName =>
    advance
    return .hidden
  | .mark "[" =>
    advance
    computed
    expectMark "]"
    return .computed
  | _ => fail

end Parse

/-- Reads a mark that only a language with types has, if it is there. -/
def Grammar.skipTypeMark (g : Grammar) (text : String) : Parse Bool :=
  if g.typed then Parse.skipMark text else return false

/-- Reads a word with a meaning in a language with types, if it is there. -/
def Grammar.skipTypeWord (g : Grammar) (word : String) : Parse Bool :=
  if g.typed then Parse.skipWord word else return false

end ServiceStubs.Source
