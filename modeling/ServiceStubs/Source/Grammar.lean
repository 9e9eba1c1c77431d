import ServiceStubs.Source.Grammar.Items
import ServiceStubs.Source.Position

/-!
# Source texts

The grammar of source texts, from the readers of single phrases. Phrases inside of phrases are read with
one step less, so that reading ends; each step takes at least one character, so a text has steps
enough.

`readItems` reads the statements of a text, or finds the first place at which it cannot go on.
-/

namespace ServiceStubs.Source

/-- The grammar for phrases that are nested at most `depth` times. -/
def Grammar.ofDepth (typed : Bool) (bound : Nat) : Nat → Grammar
  | 0 =>
    { typed, bound
      type := Parse.fail
      unconditional := fun _ => Parse.fail
      assignment := fun _ => Parse.fail
      operand := fun _ => Parse.fail
      value := Parse.fail
      target := Parse.fail
      statement := Parse.fail
      item := Parse.fail }
  | depth + 1 =>
    { typed, bound
      type := fun t => (ofDepth typed bound depth).wholeType t
      unconditional := fun inCondition t =>
        (ofDepth typed bound depth).unconditionalType inCondition t
      assignment := fun place t => (ofDepth typed bound depth).wholeAssignment place t
      operand := fun place t => (ofDepth typed bound depth).prefixedOperand place t
      value := fun t => (ofDepth typed bound depth).memberValue .plain t
      target := fun t => (ofDepth typed bound depth).bindingTarget t
      statement := fun t => (ofDepth typed bound depth).wholeStatement t
      item := fun t => (ofDepth typed bound depth).wholeItem t }

/-- The statements up to the end of the text. -/
def allItems (g : Grammar) : Parse (List Item) :=
  Parse.collect g.bound do
    if (← Parse.lexeme) matches .endOfText then return none else return some (← g.item)

/-- The statements of a source text, or the first place at which it cannot go on. -/
def readItems (typed : Bool) (text : String) : Except Position (List Item) :=
  let chars := dropByteOrderMark text.toList
  let bound := chars.length + 16
  match allItems (.ofDepth typed bound bound) (Token.first chars) with
  | .ok (items, _) => .ok items
  | .error rest => .error (positionOf chars rest)

end ServiceStubs.Source
