/-!
# Ranges of code points

A property of characters is given as a list of closed ranges of code points.
-/

namespace GrammarTarget.Unicode

/-- The code points from `first` to `last`, both included. -/
structure CodePointRange where
  first : Nat
  last  : Nat
  deriving DecidableEq, Repr

/-- Whether a code point lies in the range. -/
def CodePointRange.contains (r : CodePointRange) (n : Nat) : Bool :=
  r.first ≤ n && n ≤ r.last

end GrammarTarget.Unicode
