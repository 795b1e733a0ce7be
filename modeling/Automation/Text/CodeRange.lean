/-!
# Sets of characters as sorted ranges of code points

A property of characters that a standard gives as data is stored as a list of code point ranges in
increasing order. `CodeRange.covers` looks a code point up and stops at the first range that starts
beyond it; on a list whose ranges are in order it holds exactly of the code points inside a range.
-/

set_option autoImplicit false

namespace Automation.Text

/-- The code points from `first` to `last`, both included. -/
structure CodeRange where
  first : Nat
  last : Nat
  deriving DecidableEq, Repr

namespace CodeRange

/-- Whether a code point lies in one of the ranges, which are in increasing order. -/
def covers : List CodeRange → Nat → Bool
  | [], _ => false
  | r :: rest, c => if c < r.first then false else if c ≤ r.last then true else covers rest c

end CodeRange

end Automation.Text
