/-!
# Ranges of code points

A set of code points is a rising list of boundaries: a range opens at the first, closes before the
second, and so on.

* `insideRanges boundaries n`: whether `n` lies in one of the ranges.
-/

namespace ChainLint.Text

/-- Whether an odd number of boundaries lie at or below the code point, so that a range is open. -/
def insideRanges (boundaries : List Nat) (n : Nat) : Bool :=
  (boundaries.takeWhile (· ≤ n)).length % 2 = 1

end ChainLint.Text
