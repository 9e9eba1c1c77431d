import ServiceStubs.Number.Double

/-!
# Decimal texts of numbers

A number is written with the fewest digits that read back as the number, never with an exponent. Of two
texts of that length the one nearer to the number is taken, and the greater of two that are equally
near. Integers below `2 ^ 53` are written exactly, as all their digits are needed.

Main definitions:

* `shortestDecimal` finds the digits on the grids of powers of ten;
* `Double.decimal` is the text.
-/

namespace ServiceStubs

/-! ## Exact quotients -/

/-- A non-negative fraction. The denominator is not zero. -/
structure Fraction where
  num : Nat
  den : Nat

/-- The value `digits * 10 ^ exponent` as a fraction. -/
def Fraction.ofDecimal (digits : Nat) (exponent : Int) : Fraction :=
  ⟨digits * Nat.pow 10 exponent.toNat, Nat.pow 10 (-exponent).toNat⟩

/-- The value `mantissa * 2 ^ exponent` as a fraction. -/
def Fraction.ofBinary (mantissa : Nat) (exponent : Int) : Fraction :=
  ⟨mantissa * Nat.pow 2 exponent.toNat, Nat.pow 2 (-exponent).toNat⟩

/-- Whether one fraction is below another. -/
def Fraction.isLess (x y : Fraction) : Bool :=
  x.num * y.den < y.num * x.den

/-- The distance of two fractions. -/
def Fraction.distance (x y : Fraction) : Fraction :=
  let a := x.num * y.den
  let b := y.num * x.den
  ⟨(a - b) + (b - a), x.den * y.den⟩

/-! ## Shortest digits -/

/-- The fractions that round to `mantissa * 2 ^ exponent`. The bounds belong to the interval exactly
if the mantissa is even. -/
def roundsTo (mantissa : Nat) (exponent : Int) (x : Fraction) : Bool :=
  let low :=
    if mantissa = mantissaBound / 2 ∧ leastExponent < exponent then
      Fraction.ofBinary (4 * mantissa - 1) (exponent - 2)
    else Fraction.ofBinary (2 * mantissa - 1) (exponent - 1)
  let high := Fraction.ofBinary (2 * mantissa + 1) (exponent - 1)
  if mantissa % 2 = 0 then !x.isLess low && !high.isLess x else low.isLess x && x.isLess high

/-- The number of decimal digits of `num / den` before the point, or less one than the number of zeros
that follow the point, negated. -/
def decimalPlaces (x : Fraction) : Int :=
  if x.den ≤ x.num then (Nat.toDigits 10 (x.num / x.den)).length
  else 1 - ((List.range 400).find? fun k => x.den ≤ x.num * Nat.pow 10 k).getD 400

/-- The point of the grid of step `10 ^ exponent` that is nearest to `value` of the two around it and
rounds to the number. -/
def gridPoint? (mantissa : Nat) (binaryExponent : Int) (value : Fraction) (exponent : Int) :
    Option Nat :=
  let below := value.num * Nat.pow 10 (-exponent).toNat / (value.den * Nat.pow 10 exponent.toNat)
  let low := Fraction.ofDecimal below exponent
  let high := Fraction.ofDecimal (below + 1) exponent
  let fits := roundsTo mantissa binaryExponent
  match fits low, fits high with
  | true, true =>
    if (value.distance low).isLess (value.distance high) then some below else some (below + 1)
  | true, false => some below
  | false, true => some (below + 1)
  | false, false => none

/-- The digits and the exponent of the shortest decimal that reads back as a magnitude other than zero:
the first grid, from coarse to fine, that has a point in the interval. -/
def shortestDecimal (mantissa : Nat) (exponent : Int) : Nat × Int :=
  let value := Fraction.ofBinary mantissa exponent
  let places := decimalPlaces value
  let found := (List.range 17).findSome? fun (count : Nat) =>
    let step := places - 1 - (count : Int)
    (gridPoint? mantissa exponent value step).map fun digits => (digits, step)
  found.getD (0, 0)

/-! ## Texts -/

/-- The decimal digits of a natural number. -/
def digitsOf (n : Nat) : List Char :=
  Nat.toDigits 10 n

/-- The digits without the zeros at their end, at most `count` of them, and the number of those left
over. -/
def dropTrailingZeros : Nat → Nat → Nat × Nat
  | n, 0 => (n, 0)
  | n, count + 1 => if n % 10 = 0 then dropTrailingZeros (n / 10) count else (n, count + 1)

/-- The value `digits * 10 ^ exponent`, written without an exponent. -/
def positional (digits : Nat) (exponent : Int) : List Char :=
  if 0 ≤ exponent then digitsOf digits ++ List.replicate exponent.toNat '0'
  else
    let (kept, places) := dropTrailingZeros digits (-exponent).toNat
    let cs := digitsOf kept
    if places = 0 then cs
    else
      let padded := List.replicate (places + 1 - cs.length) '0' ++ cs
      padded.take (padded.length - places) ++ '.' :: padded.drop (padded.length - places)

/-- The natural number that a finite magnitude is, if it is one below `2 ^ 53`. -/
def Magnitude.smallNat? : Magnitude → Option Nat
  | .infinite => none
  | .finite mantissa exponent =>
    let num := mantissa * Nat.pow 2 exponent.toNat
    let den := Nat.pow 2 (-exponent).toNat
    if num % den = 0 ∧ num / den < mantissaBound then some (num / den) else none

/-- The text of a magnitude. -/
def Magnitude.decimal (x : Magnitude) : List Char :=
  match x.smallNat?, x with
  | some n, _ => digitsOf n
  | none, .finite mantissa exponent =>
    let (digits, power) := shortestDecimal mantissa exponent
    positional digits power
  | none, .infinite => ['i', 'n', 'f']

/-- The text of a number. Zero has no sign. -/
def Double.decimal (x : Double) : String :=
  String.ofList <|
    if x.negative ∧ x.magnitude.smallNat? ≠ some 0 then '-' :: x.magnitude.decimal
    else x.magnitude.decimal

end ServiceStubs
