/-!
# Runs of code points

The form in which tables on characters are written down.

## Main definitions

* `Text.Run` — the code points from a first to a last one in steps of one or two.
* `Text.inRuns` — whether a character is in one of some runs.
-/

set_option autoImplicit false
set_option relaxedAutoImplicit false

namespace SchemaQueries.Text

/-- The code points `first`, `first + step`, … up to `last`. -/
structure Run where
  first : Nat
  last : Nat
  step : Nat

/-- Whether the code point `n` is one of the run. -/
def Run.contains (r : Run) (n : Nat) : Bool :=
  r.first ≤ n && n ≤ r.last && (n - r.first) % r.step == 0

/-- Whether the character is in one of the runs. -/
def inRuns (runs : List Run) (c : Char) : Bool :=
  runs.any (·.contains c.toNat)

end SchemaQueries.Text
