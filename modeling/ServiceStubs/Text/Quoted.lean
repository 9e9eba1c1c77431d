import ServiceStubs.Text.CodeRun
import ServiceStubs.Text.Printable.Tables
import ServiceStubs.Text.Split

/-!
# Quoted texts

Three quoted forms of a text, all between double quotes:

* `jsonQuoted` escapes what a JSON string must escape;
* `quote` is the same, and protects `$` for languages that interpolate in strings;
* `shown` is for reading: whatever has no glyph of its own is escaped by its code point.
-/

namespace ServiceStubs.Text

/-- Hexadecimal digits of a number, in lower case. -/
def hexDigits (n : Nat) : List Char :=
  Nat.toDigits 16 n

/-- `n` in hexadecimal, padded with zeros to `width` digits. -/
def hexPadded (width n : Nat) : List Char :=
  List.replicate (width - (hexDigits n).length) '0' ++ hexDigits n

/-! ## JSON strings -/

/-- How a character stands in a JSON string. -/
def jsonEscape (c : Char) : List Char :=
  if c = '"' then ['\\', '"']
  else if c = '\\' then ['\\', '\\']
  else if c = '\n' then ['\\', 'n']
  else if c = '\r' then ['\\', 'r']
  else if c = '\t' then ['\\', 't']
  else if c.toNat = 8 then ['\\', 'b']
  else if c.toNat = 12 then ['\\', 'f']
  else if c.toNat < 32 then ['\\', 'u'] ++ hexPadded 4 c.toNat
  else [c]

/-- A text as a JSON string. -/
def jsonQuoted (s : String) : String :=
  String.ofList ('"' :: (s.toList.flatMap jsonEscape ++ ['"']))

/-- A text as a string literal of a target language. JSON escapes hold in every target;
`escapeDollar` also protects `$`, which interpolates in some. -/
def quote (s : String) (escapeDollar : Bool) : String :=
  if escapeDollar then replaceAll "$" "\\$" (jsonQuoted s) else jsonQuoted s

/-! ## Texts for reading -/

/-- Whether a character shows by itself. -/
def isShowable (c : Char) : Bool :=
  if c.toNat < 127 then decide (32 ≤ c.toNat)
  else !inRuns graphemeExtendRuns c && !inRuns unprintableRuns c

/-- How a character stands in a text for reading. -/
def showEscape (c : Char) : List Char :=
  if c = '"' then ['\\', '"']
  else if c = '\\' then ['\\', '\\']
  else if c = '\n' then ['\\', 'n']
  else if c = '\r' then ['\\', 'r']
  else if c = '\t' then ['\\', 't']
  else if c.toNat = 0 then ['\\', '0']
  else if isShowable c then [c]
  else ['\\', 'u', '\x7b'] ++ hexDigits c.toNat ++ ['\x7d']

/-- A text in quotes, for reading. -/
def shown (s : String) : String :=
  String.ofList ('"' :: (s.toList.flatMap showEscape ++ ['"']))

end ServiceStubs.Text
