/-!
# Sets of code points

A property of characters that a standard fixes by a table is kept as the list of
code points at which membership changes: the set holds everything from the first
entry up to, not including, the second, from the third up to the fourth, and so
on. A code point belongs to the set iff the number of changes up to it is odd.
-/

namespace JavaSurvey.Text

/-- A set of code points, given by the ascending list of its changes. -/
structure CodePointSet where
  changes : List Nat

/-- Whether a code point is in the set. -/
def CodePointSet.containsNat (set : CodePointSet) (code : Nat) : Bool :=
  (set.changes.takeWhile (· ≤ code)).length % 2 == 1

/-- Whether a character is in the set. -/
def CodePointSet.contains (set : CodePointSet) (c : Char) : Bool :=
  set.containsNat c.toNat

end JavaSurvey.Text
