/-!
# Positions in a source text

Lines and columns count from one. A tab is as wide as two other characters.
-/

namespace ServiceStubs.Source

/-- A place in a source text, for reading. -/
structure Position where
  line : Nat
  column : Nat
deriving DecidableEq, Repr

/-- The place after a character. -/
def Position.advance (p : Position) (c : Char) : Position :=
  if c = '\n' then ⟨p.line + 1, 1⟩
  else if c = '\t' then ⟨p.line, p.column + 2⟩
  else ⟨p.line, p.column + 1⟩

/-- The place where `rest`, an end of `text`, begins. -/
def positionOf (text rest : List Char) : Position :=
  (text.take (text.length - rest.length)).foldl Position.advance ⟨1, 1⟩

end ServiceStubs.Source
