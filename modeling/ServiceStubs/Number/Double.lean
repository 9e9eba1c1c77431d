/-!
# Double precision numbers

The numbers of source files: a sign with a magnitude that has 53 binary digits, or is infinite. They
are exact values here, so that rounding is a function that can be reasoned about. Constants never
give a value that is not a number.

Main definitions:

* `Magnitude.ofRatio` is the magnitude nearest to a quotient, the even one of two;
* `Double.ofDecimal` reads decimal notation;
* `Double.negate` and `Double.successor` are the arithmetic that constants need.
-/

namespace ServiceStubs

/-- The size of a number. -/
inductive Magnitude where
  /-- The value `mantissa * 2 ^ exponent`. -/
  | finite (mantissa : Nat) (exponent : Int)
  | infinite
deriving DecidableEq, Repr

/-- A number with a sign. Zero has both signs. -/
structure Double where
  negative : Bool
  magnitude : Magnitude
deriving DecidableEq, Repr

/-! ## Rounding -/

/-- The least exponent of a magnitude. -/
def leastExponent : Int := -1074

/-- The greatest exponent of a magnitude. -/
def greatestExponent : Int := 971

/-- What mantissas are below: they have 53 binary digits. -/
def mantissaBound : Nat := Nat.pow 2 53

/-- The quotient `num / den`, scaled down by `2 ^ exponent`, as a quotient of natural numbers. -/
def scaledRatio (num den : Nat) (exponent : Int) : Nat × Nat :=
  (num * Nat.pow 2 (-exponent).toNat, den * Nat.pow 2 exponent.toNat)

/-- The integer nearest to `num / den`, the even one of two. -/
def roundHalfEven (num den : Nat) : Nat :=
  let whole := num / den
  let twice := 2 * (num % den)
  if twice < den then whole
  else if den < twice then whole + 1
  else if whole % 2 = 0 then whole
  else whole + 1

/-- The exponent at which `num / den` has 53 binary digits before the point, or the least one if that
is too small. -/
def ratioExponent (num den : Nat) : Int :=
  let guess : Int := (num.log2 : Int) - (den.log2 : Int) - 53
  let scaled := scaledRatio num den guess
  let fitted := if scaled.1 / scaled.2 < mantissaBound then guess else guess + 1
  max fitted leastExponent

/-- The magnitude nearest to `num / den`, the one with an even mantissa of two. -/
def Magnitude.ofRatio (num den : Nat) : Magnitude :=
  if num = 0 then .finite 0 leastExponent
  else
    let exponent := ratioExponent num den
    let scaled := scaledRatio num den exponent
    let mantissa := roundHalfEven scaled.1 scaled.2
    if mantissa < mantissaBound then
      if exponent ≤ greatestExponent then .finite mantissa exponent else .infinite
    else if exponent + 1 ≤ greatestExponent then .finite (mantissaBound / 2) (exponent + 1)
    else .infinite

/-- The number nearest to a natural number. -/
def Double.ofNat (n : Nat) : Double :=
  ⟨false, .ofRatio n 1⟩

/-- The number nearest to `digits * 10 ^ exponent`. Far outside of the range of magnitudes the power
need not be computed. -/
def Double.ofDecimal (digits : Nat) (exponent : Int) : Double :=
  let places : Int := (Nat.toDigits 10 digits).length + exponent
  ⟨false,
    if digits = 0 ∨ places < -330 then .ofRatio 0 1
    else if 310 < places then .infinite
    else .ofRatio (digits * Nat.pow 10 exponent.toNat) (Nat.pow 10 (-exponent).toNat)⟩

/-! ## Arithmetic -/

/-- The number with the other sign. -/
def Double.negate (x : Double) : Double :=
  ⟨!x.negative, x.magnitude⟩

/-- The number nearest to `x + 1`. -/
def Double.successor (x : Double) : Double :=
  match x.magnitude with
  | .infinite => x
  | .finite mantissa exponent =>
    let num := mantissa * Nat.pow 2 exponent.toNat
    let den := Nat.pow 2 (-exponent).toNat
    if x.negative then
      if num ≤ den then ⟨false, .ofRatio (den - num) den⟩ else ⟨true, .ofRatio (num - den) den⟩
    else ⟨false, .ofRatio (num + den) den⟩

end ServiceStubs
