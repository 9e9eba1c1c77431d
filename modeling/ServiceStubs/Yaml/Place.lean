/-!
# Places in a YAML text

A place is what remains of a text, with the column and line at which it begins. Lines end with any of five
breaks; a carriage return and a line feed together are one.

Main definitions:

* `Place.dropWhile` and `Place.skipBreak` go on;
* `takeBreak?` takes a line break off a text, and tells what it stands for.
-/

namespace ServiceStubs.Yaml

/-! ## Characters -/

/-- Characters that may occur in a text. -/
def isAllowed (c : Char) : Bool :=
  let n := c.toNat
  n == 0x09 || n == 0x0A || n == 0x0D || (0x20 ≤ n && n ≤ 0x7E) || n == 0x85 ||
    (0xA0 ≤ n && n ≤ 0xD7FF) || (0xE000 ≤ n && n ≤ 0xFFFD && n != 0xFEFF) || 0x10000 ≤ n

/-- Spaces and tabs. -/
def isBlank (c : Char) : Bool :=
  c == ' ' || c == '\t'

/-- Characters that end a line. -/
def isBreak (c : Char) : Bool :=
  c == '\n' || c == '\r' || c.toNat == 0x85 || c.toNat == 0x2028 || c.toNat == 0x2029

/-- Whether nothing, a blank or a line break follows. -/
def atGap : List Char → Bool
  | [] => true
  | c :: _ => isBlank c || isBreak c

/-- Whether a line ends here. -/
def atLineEnd : List Char → Bool
  | [] => true
  | c :: _ => isBreak c

/-- The line break in front of a text, as it counts in values, and the text after it. -/
def takeBreak? : List Char → Option (Char × List Char)
  | '\r' :: '\n' :: rest => some ('\n', rest)
  | c :: rest =>
    if isBreak c then
      some (if c.toNat = 0x2028 ∨ c.toNat = 0x2029 then c else '\n', rest)
    else none
  | [] => none

/-- Whether a line is one of the marks between documents. -/
def atDocumentMark : List Char → Bool
  | '-' :: '-' :: '-' :: rest => atGap rest
  | '.' :: '.' :: '.' :: rest => atGap rest
  | _ => false

/-! ## Places -/

/-- A place in a text. -/
structure Place where
  rest : List Char
  line : Nat
  column : Nat
  /-- The number of characters before the place. -/
  index : Nat

/-- The place `count` characters further on the same line. -/
def Place.drop (p : Place) (count : Nat) : Place :=
  ⟨p.rest.drop count, p.line, p.column + count, p.index + count⟩

/-- The place after the characters of a kind. -/
def Place.dropWhile (p : Place) (kind : Char → Bool) : Place :=
  p.drop (p.rest.takeWhile kind).length

/-- The place after a line break, if there is one here. -/
def Place.skipBreak (p : Place) : Place :=
  match takeBreak? p.rest with
  | some (_, rest) => ⟨rest, p.line + 1, 0, p.index + (p.rest.length - rest.length)⟩
  | none => p

end ServiceStubs.Yaml
