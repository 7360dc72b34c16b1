/-!
# Runs of code points

Unicode properties are tables of runs. A run is an arithmetic progression of code points: step one
for a plain interval, step two where the two cases of a script alternate.
-/

namespace Schemata.Text

/-- The code points `first`, `first + step`, … up to `last`. -/
structure Run where
  /-- The least code point of the run. -/
  first : Nat
  /-- The greatest code point of the run. -/
  last : Nat
  /-- The distance between neighbours. -/
  step : Nat
  deriving DecidableEq, Repr

/-- Whether the code point `n` lies on the run. -/
def Run.contains (r : Run) (n : Nat) : Bool :=
  r.first ≤ n && n ≤ r.last && (n - r.first) % r.step == 0

/-- Whether some run of the table holds the character. -/
def inRuns (runs : List Run) (c : Char) : Bool :=
  runs.any (·.contains c.toNat)

end Schemata.Text
