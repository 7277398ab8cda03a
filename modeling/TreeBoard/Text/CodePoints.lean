/-!
# Sets of code points

A set of code points is given by its changes: the code points, in order, at which membership begins
or ends. The first of them begins it.
-/

namespace TreeBoard.Text

/-- Whether a code point belongs to the set with the given changes: an odd number of them does not lie
behind it. -/
def isWithin (changes : List Nat) (code : Nat) : Bool :=
  (changes.takeWhile (· ≤ code)).length % 2 == 1

end TreeBoard.Text
