import ServiceStubs.Text.Letter.Tables
import ServiceStubs.Text.Letter.CaseTables

/-!
# Letters, digits and their cases

Classification of characters and their upper and lower forms. ASCII characters are decided directly,
all others by table. A case change may lengthen a text (`ß` becomes `SS`), so `toUpper` and `toLower`
answer with a list of characters.
-/

namespace ServiceStubs.Text

/-! ## Classes -/

/-- Letters, in the widest sense: the property Alphabetic. -/
def isAlphabetic (c : Char) : Bool :=
  if c.toNat < 128 then c.isAlpha else inRuns alphabeticRuns c

/-- Digits and other numbers of any script. -/
def isNumeric (c : Char) : Bool :=
  if c.toNat < 128 then c.isDigit else inRuns numericRuns c

/-- Letters and numbers of any script. -/
def isAlphanumeric (c : Char) : Bool :=
  isAlphabetic c || isNumeric c

/-- Upper-case characters of any script. -/
def isUppercase (c : Char) : Bool :=
  if c.toNat < 128 then c.isUpper else inRuns uppercaseRuns c

/-- Lower-case characters of any script. -/
def isLowercase (c : Char) : Bool :=
  if c.toNat < 128 then c.isLower else inRuns lowercaseRuns c

/-- The characters that may stand in an identifier of every target: letters, numbers and `_`. -/
def isWordChar (c : Char) : Bool :=
  isAlphanumeric c || c == '_'

/-! ## Case changes -/

/-- The other case of `c` by the given tables, or `c` itself where they say nothing. -/
def changeCase (shifts : List CaseShift) (spellings : List (Nat × List Nat)) (c : Char) :
    List Char :=
  match spellings.lookup c.toNat with
  | some spelling => spelling.map Char.ofNat
  | none =>
    match shifts.find? fun s => s.run.has c.toNat with
    | some s => [Char.ofNat (Int.toNat (c.toNat + s.distance))]
    | none => [c]

/-- The upper-case form of a character. -/
def toUpper (c : Char) : List Char :=
  if c.toNat < 128 then [c.toUpper] else changeCase uppercaseShifts uppercaseSpellings c

/-- The lower-case form of a character, wherever it stands in a word. -/
def toLower (c : Char) : List Char :=
  if c.toNat < 128 then [c.toLower] else changeCase lowercaseShifts lowercaseSpellings c

end ServiceStubs.Text
