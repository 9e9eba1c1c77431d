import ServiceStubs.Number.Decimal
import ServiceStubs.Service
import ServiceStubs.Source.Syntax

/-!
# Constants

The values of enum members and of default arguments. A member without a value of its own counts on from
the number before it; after a string there is nothing to count on from.

Main definitions:

* `numericValue?` is the number that an expression spells out;
* `enumCases` are the members of an enum with their values;
* `constant?` is the literal that an expression spells out.
-/

namespace ServiceStubs.Resolution

open Source

/-- The number that an expression spells out, with signs and parentheses. -/
def numericValue? : Expression → Option Double
  | .number value => some value
  | .negated inner => (numericValue? inner).map Double.negate
  | .parenthesized inner => numericValue? inner
  | _ => none

/-- The literal that an expression spells out. -/
def constant? (e : Expression) : Option Literal :=
  match numericValue? e, e with
  | some value, _ => some (.number value.decimal)
  | none, .string value => some (.string value)
  | none, .boolean value => some (.boolean value)
  | none, .null => some .null
  | none, _ => none

/-- The value of an enum member, and the number that the member after it has if it has no value of its own;
`next` is that number for this member. -/
def memberValue (path enumName : String) (next : Option Double) (member : EnumMember) :
    Except Error (Literal × Option Double) :=
  match member.value with
  | none =>
    match next with
    | some number => .ok (.number number.decimal, some number.successor)
    | none => .error (.unsupportedSyntax path (.uninitialisedMember enumName member.name))
  | some value =>
    match numericValue? value, value with
    | some number, _ => .ok (.number number.decimal, some number.successor)
    | none, .string text => .ok (.string text, none)
    | none, _ => .error (.unsupportedSyntax path (.memberValue enumName member.name))

/-- The members of an enum with their values, the first of them having the number `next` unless it has a
value of its own. -/
def casesFrom (path enumName : String) (next : Option Double) :
    List EnumMember → Except Error (List EnumCase)
  | [] => .ok []
  | member :: rest => do
    let (value, next) ← memberValue path enumName next member
    return ⟨member.name, value⟩ :: (← casesFrom path enumName next rest)

/-- The members of an enum in a module, with their values. -/
def enumCases (path : String) (e : EnumSyntax) : Except Error (List EnumCase) :=
  casesFrom path e.name (some (.ofNat 0)) e.members

end ServiceStubs.Resolution
