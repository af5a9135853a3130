/-! Sets of characters given as runs of code points. -/

namespace EntityQuery.Text

/-- The code points `first`, `first + step`, … up to `last`. -/
structure Run where
  first : Nat
  last : Nat
  step : Nat
  deriving DecidableEq, Repr

def Run.contains (r : Run) (n : Nat) : Bool :=
  r.first ≤ n && n ≤ r.last && (n - r.first) % r.step == 0

def inRuns (runs : List Run) (c : Char) : Bool :=
  runs.any (·.contains c.toNat)

end EntityQuery.Text
