import ServiceStubs.Number.Literal
import ServiceStubs.Source.Identifier

/-!
# Lexemes

The smallest units of a source text: words, names with `#`, strings, numbers and marks. Every reader
takes the longest unit off the front of a text and returns the text after it. Regular expressions and
templates begin with a mark; the grammar asks for their remainder where it expects one.

The marks `<` and `>` are always single, because they nest as brackets of type arguments.

Main definitions:

* `Lexeme.read` reads one lexeme;
* `readPattern?` reads the remainder of a regular expression;
* `readTemplatePart?` reads a template up to its end or the next expression in it.
-/

namespace ServiceStubs.Source

/-- A unit of a source text. -/
inductive Lexeme where
  /-- An identifier or reserved word. One that is written with escapes has no other meaning than that
  of a name. -/
  | word (name : String) (escaped : Bool)
  | hiddenName
  | string (value : String)
  | number (value : Double)
  | bigInteger
  | mark (text : String)
  | invalid
  | endOfText
deriving Repr

instance : Inhabited Lexeme := ⟨.invalid⟩

/-! ## Escapes -/

/-- Line endings of source texts. -/
def isLineEnd (c : Char) : Bool :=
  c == '\n' || c == '\r' || c.toNat == 0x2028 || c.toNat == 0x2029

/-- The value of hexadecimal digits, if there is one and all are digits. -/
def hexValue? (digits : List Char) : Option Nat :=
  if digits ≠ [] ∧ digits.all (NumericLiteral.isDigitOf 16) then
    some (NumericLiteral.valueOf 16 digits)
  else none

/-- The code point after `\u`, and the rest. -/
def readCodePoint? : List Char → Option (Nat × List Char)
  | '\x7b' :: rest =>
    match rest.dropWhile (· != '\x7d') with
    | _ :: after =>
      (hexValue? (rest.takeWhile (· != '\x7d'))).bind fun n =>
        if n < 0x110000 then some (n, after) else none
    | [] => none
  | text =>
    if 4 ≤ text.length then (hexValue? (text.take 4)).map fun n => (n, text.drop 4) else none

/-- The characters that `\u` and what follows it stand for. Half of a surrogate pair is no character: its
escape stands for itself. -/
def readUnicodeEscape? (text : List Char) : Option (List Char × List Char) :=
  (readCodePoint? text).map fun (n, rest) =>
    if n < 0xD800 ∨ 0xE000 ≤ n then ([Char.ofNat n], rest)
    else ('\\' :: 'u' :: text.take (text.length - rest.length), rest)

/-- The characters that a backslash and what follows it stand for. -/
def readEscape? : List Char → Option (List Char × List Char)
  | [] => none
  | 'n' :: rest => some (['\n'], rest)
  | 'r' :: rest => some (['\r'], rest)
  | 't' :: rest => some (['\t'], rest)
  | 'b' :: rest => some ([Char.ofNat 8], rest)
  | 'v' :: rest => some ([Char.ofNat 11], rest)
  | 'f' :: rest => some ([Char.ofNat 12], rest)
  | '\r' :: '\n' :: rest => some ([], rest)
  | 'x' :: rest =>
    if 2 ≤ rest.length then
      (hexValue? (rest.take 2)).map fun n => ([Char.ofNat n], rest.drop 2)
    else none
  | 'u' :: rest => readUnicodeEscape? rest
  | c :: rest =>
    -- A line break after a backslash joins two lines of the text.
    if isLineEnd c then some ([], rest)
    else if NumericLiteral.isDigitOf 8 c then
      -- Octal digits name a character below 256.
      let most := if c ≤ '3' then 3 else 2
      let digits := ((c :: rest).take most).takeWhile (NumericLiteral.isDigitOf 8)
      some ([Char.ofNat (NumericLiteral.valueOf 8 digits)], (c :: rest).drop digits.length)
    else some ([c], rest)

/-! ## Strings -/

/-- The characters of a string up to its closing quote, and the text after it. The end of the line closes a
string as well. A failure is the text from the first escape on that stands for nothing. The first
argument bounds the number of characters. -/
def readStringBody (quote : Char) : Nat → List Char → Except (List Char) (List Char × List Char)
  | 0, text => .ok ([], text)
  | _, [] => .ok ([], [])
  | bound + 1, c :: rest =>
    if c = quote then .ok ([], rest)
    else if c = '\n' ∨ c = '\r' then .ok ([], c :: rest)
    else if c = '\\' then
      match readEscape? rest with
      | none => .error (c :: rest)
      | some (cs, after) =>
        (readStringBody quote bound after).map fun (more, left) => (cs ++ more, left)
    else (readStringBody quote bound rest).map fun (more, left) => (c :: more, left)

/-! ## Words -/

/-- The characters of a word, whether there are escapes among them, and the text after it. The first
argument bounds the number of escapes. -/
def readWordBody : Nat → List Char → List Char × Bool × List Char
  | 0, text => ([], false, text)
  | bound + 1, text =>
    let plain := text.takeWhile continuesIdentifier
    match text.dropWhile continuesIdentifier with
    | '\\' :: 'u' :: rest =>
      match readUnicodeEscape? rest with
      | some (cs, after) =>
        let (more, _, left) := readWordBody bound after
        (plain ++ cs ++ more, true, left)
      | none => (plain, false, '\\' :: 'u' :: rest)
    | rest => (plain, false, rest)

/-! ## Marks -/

/-- The marks, longer ones before their beginnings. -/
def marks : List String :=
  ["...", "===", "!==", "**=", "&&=", "||=", "??=",
    "=>", "==", "!=", "++", "--", "+=", "-=", "*=", "/=", "%=", "&=", "|=", "^=", "**", "&&", "||", "??", "?.",
    "\x7b", "\x7d", "(", ")", "[", "]", ";", ",", "<", ">", "+", "-", "*", "/", "%", "&", "|", "^", "!", "~",
    "?", ":", "=", ".", "@", "\x60"]

/-- The text after `front`, if `text` starts with it. -/
def afterPrefix? : List Char → List Char → Option (List Char)
  | [], text => some text
  | c :: front, d :: text => if c = d then afterPrefix? front text else none
  | _ :: _, [] => none

/-- Whether a mark may be taken off in front of `rest`: `?.` in front of a digit is the mark `?` and a
number. -/
def markFits (mark : String) (rest : List Char) : Bool :=
  mark != "?." || !(rest.head?.any Char.isDigit)

/-- The mark in front of a text. -/
def readMark? (text : List Char) : Option (String × List Char) :=
  marks.findSome? fun mark =>
    (afterPrefix? mark.toList text).bind fun rest =>
      if markFits mark rest then some (mark, rest) else none

/-! ## Lexemes -/

/-- Whether a text starts with a number. -/
def startsNumber : List Char → Bool
  | '.' :: c :: _ => c.isDigit
  | c :: _ => c.isDigit
  | [] => false

/-- Whether a text starts with a word. -/
def startsWord : List Char → Bool
  | '\\' :: 'u' :: _ => true
  | c :: _ => startsIdentifier c
  | [] => false

/-- The lexeme in front of a text, the text from its first character on, and the text after it. A number
runs into nothing that continues a word; if it does, the fault lies there. -/
def Lexeme.read (text : List Char) : Lexeme × List Char × List Char :=
  match text with
  | [] => (.endOfText, [], [])
  | c :: rest =>
    if startsNumber text then
      match NumericLiteral.read? text with
      | none => (.invalid, text, rest)
      | some (literal, after) =>
        -- A number must not touch a word or another number.
        if startsWord after ∨ after.head?.any Char.isDigit then (.invalid, after, after)
        else
          match literal with
          | .number value => (.number value, text, after)
          | .bigInteger => (.bigInteger, text, after)
    else if startsWord text then
      match readWordBody text.length text with
      | ([], _, after) => (.invalid, text, after)
      | (cs, escaped, after) => (.word (String.ofList cs) escaped, text, after)
    else if c = '"' ∨ c = '\'' then
      match readStringBody c text.length rest with
      | .ok (cs, after) => (.string (String.ofList cs), text, after)
      | .error fault => (.invalid, fault, fault)
    else if c = '#' ∧ startsWord rest then
      let (_, _, after) := readWordBody rest.length rest
      (.hiddenName, text, after)
    else
      match readMark? text with
      | some (sign, after) => (.mark sign, text, after)
      | none => (.invalid, text, rest)

/-! ## Regular expressions and templates -/

/-- The text after a regular expression, given the text after its first slash. Slashes in brackets and
after a backslash belong to it. -/
def readPatternBody? (inClass escaped : Bool) : List Char → Option (List Char)
  | [] => none
  | c :: rest =>
    if isLineEnd c then none
    else if escaped then readPatternBody? inClass false rest
    else if c = '\\' then readPatternBody? inClass true rest
    else if c = '[' then readPatternBody? true false rest
    else if c = ']' then readPatternBody? false false rest
    else if c = '/' ∧ ¬ inClass then some rest
    else readPatternBody? inClass false rest

/-- The text after a regular expression and its flags, given the text after its first slash. -/
def readPattern? (text : List Char) : Option (List Char) :=
  (readPatternBody? false false text).map (·.dropWhile continuesIdentifier)

/-- A part of a template, up to its end or the next expression in it. -/
structure TemplatePart where
  /-- Whether an expression follows. -/
  precedesExpression : Bool
  /-- The text from the last escape on that stands for nothing. -/
  fault : Option (List Char)
  rest : List Char

/-- Whether a text starts with a number in octal digits, other than a single zero. -/
def startsOctal : List Char → Bool
  | '0' :: c :: _ => NumericLiteral.isDigitOf 8 c
  | c :: _ => c != '0' && NumericLiteral.isDigitOf 8 c
  | [] => false

/-- Whether a backslash in front of a text is an escape in a template. Octal numbers are none. -/
def isTemplateEscape (text : List Char) : Bool :=
  (readEscape? text).isSome && !startsOctal text

/-- The part of a template in front of a text, given the last fault before it. There is none if the template
is never closed. -/
def readTemplatePart? (fault : Option (List Char)) : List Char → Option TemplatePart
  | [] => none
  | '\\' :: c :: rest =>
    readTemplatePart? (if isTemplateEscape (c :: rest) then fault else some ('\\' :: c :: rest)) rest
  | '\x60' :: rest => some ⟨false, fault, rest⟩
  | '$' :: '\x7b' :: rest => some ⟨true, fault, rest⟩
  | _ :: rest => readTemplatePart? fault rest

end ServiceStubs.Source
