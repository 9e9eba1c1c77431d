import ServiceStubs.Number.Double

/-!
# Numeric literals

The notations of numbers in source files: decimal, with fraction and exponent, and integers of radix
2, 8 and 16. Underscores separate digits. A leading zero in front of octal digits makes the literal
octal. The suffix `n` makes an integer of any size, whose value is not needed.

`NumericLiteral.read` takes the longest literal off a text that starts with one.
-/

namespace ServiceStubs

/-- What a numeric literal denotes. -/
inductive NumericLiteral where
  | number (value : Double)
  | bigInteger
deriving Repr

namespace NumericLiteral

/-! ## Digits -/

/-- The value of a digit in the radix. -/
def digitValue? (radix : Nat) (c : Char) : Option Nat :=
  let value? :=
    if c.isDigit then some (c.toNat - '0'.toNat)
    else if 'a' ≤ c ∧ c ≤ 'z' then some (c.toNat - 'a'.toNat + 10)
    else if 'A' ≤ c ∧ c ≤ 'Z' then some (c.toNat - 'A'.toNat + 10)
    else none
  value?.filter (· < radix)

/-- Whether a character is a digit of the radix. -/
def isDigitOf (radix : Nat) (c : Char) : Bool :=
  (digitValue? radix c).isSome

/-- The digits in front of a text, without the separators among them, and the rest. -/
def takeDigits (radix : Nat) (text : List Char) : List Char × List Char :=
  let belongs := fun c => c == '_' || isDigitOf radix c
  ((text.takeWhile belongs).filter (· != '_'), text.dropWhile belongs)

/-- The value of digits. -/
def valueOf (radix : Nat) (digits : List Char) : Nat :=
  digits.foldl (fun n c => n * radix + (digitValue? radix c).getD 0) 0

/-! ## Literals -/

/-- An integer of the radix, after the mark that names the radix. -/
def readInteger? (radix : Nat) (text : List Char) : Option (NumericLiteral × List Char) :=
  match takeDigits radix text with
  | ([], _) => none
  | (_, 'n' :: rest) => some (.bigInteger, rest)
  | (digits, rest) => some (.number (.ofNat (valueOf radix digits)), rest)

/-- The fraction in front of a text, its digits without the point. -/
def takeFraction : List Char → List Char × List Char
  | '.' :: rest => takeDigits 10 rest
  | rest => ([], rest)

/-- The exponent in front of a text, zero if there is none. An exponent needs a digit. -/
def takeExponent? (text : List Char) : Option (Int × List Char) :=
  match text with
  | e :: rest =>
    if e = 'e' ∨ e = 'E' then
      let (negative, rest) :=
        match rest with
        | '-' :: rest => (true, rest)
        | '+' :: rest => (false, rest)
        | rest => (false, rest)
      match takeDigits 10 rest with
      | ([], _) => none
      | (digits, rest) =>
        let size : Int := valueOf 10 digits
        some (if negative then -size else size, rest)
    else some (0, text)
  | [] => some (0, text)

/-- A decimal literal. -/
def readDecimal? (text : List Char) : Option (NumericLiteral × List Char) :=
  let (whole, rest) := takeDigits 10 text
  match rest with
  | 'n' :: rest => some (.bigInteger, rest)
  | _ =>
    let (fraction, rest) := takeFraction rest
    (takeExponent? rest).map fun (exponent, rest) =>
      let digits := valueOf 10 (whole ++ fraction)
      (.number (.ofDecimal digits (exponent - (fraction.length : Int))), rest)

/-- The literal in front of a text that starts with a digit, or with a point and a digit, and the text
after it. There is none if the literal is not complete. -/
def read? (text : List Char) : Option (NumericLiteral × List Char) :=
  match text with
  | '0' :: c :: rest =>
    if c = 'x' ∨ c = 'X' then readInteger? 16 rest
    else if c = 'o' ∨ c = 'O' then readInteger? 8 rest
    else if c = 'b' ∨ c = 'B' then readInteger? 2 rest
    else if c.isDigit ∧ (takeDigits 10 text).1.all (isDigitOf 8) then readInteger? 8 (c :: rest)
    else readDecimal? text
  | _ => readDecimal? text

end NumericLiteral

end ServiceStubs
