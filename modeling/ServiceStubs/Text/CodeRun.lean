/-!
# Runs of code points

Character classes are kept as lists of runs. `CodeRun.has` decides whether a code point lies in a
run; `inRuns` decides it for a whole table.
-/

namespace ServiceStubs.Text

/-- The code points `first`, `first + step`, … up to `last`. -/
structure CodeRun where
  first : Nat
  last : Nat
  step : Nat
deriving DecidableEq, Repr

/-- Whether the code point `n` belongs to the run. -/
def CodeRun.has (r : CodeRun) (n : Nat) : Bool :=
  decide (r.first ≤ n) && decide (n ≤ r.last) && decide ((n - r.first) % r.step = 0)

/-- Whether the character belongs to one of the runs. -/
def inRuns (runs : List CodeRun) (c : Char) : Bool :=
  runs.any fun r => r.has c.toNat

end ServiceStubs.Text
