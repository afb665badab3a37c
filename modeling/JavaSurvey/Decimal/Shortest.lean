import JavaSurvey.Decimal.Binary

/-!
# The shortest decimal of a double

Every decimal number near enough to a double reads back as that double. The
numbers near enough form an interval: it reaches half way to the neighbours on
either side, and its ends belong to it iff the significand is even. Of these
decimals the shortest one has the fewest digits; among several of that length it
is the one nearest to the double, and of two equally near the larger.

The search works on grids. On the grid of step `10 ^ k` only the two neighbours
of the double need be tested, for if any point of a grid lies in the interval then
one of these two does. The first grid with a hit, from coarse to fine, gives the
digits; seventeen digits always suffice.
-/

namespace JavaSurvey.Decimal

/-- A decimal number: `digits * 10 ^ exponent`. -/
structure Scaled where
  digits : Nat
  exponent : Int
deriving DecidableEq, Repr

/-- The number of decimal digits of a positive number. -/
def digitCount (n : Nat) : Nat :=
  (Nat.toDigits 10 n).length

/-- The exponent of the leading decimal digit of `numerator / denominator`. -/
def leadingExponent (numerator denominator : Nat) : Int :=
  if denominator ≤ numerator then (digitCount (numerator / denominator) : Int) - 1
  else
    let places := digitCount (denominator / numerator)
    if numerator * powerOfTen (places - 1) == denominator then -((places : Int) - 1)
    else -(places : Int)

/-- The part of an exponent above zero. -/
def upPart (exponent : Int) : Nat :=
  exponent.toNat

/-- The part of an exponent below zero. -/
def downPart (exponent : Int) : Nat :=
  (-exponent).toNat

/-- A grid laid over a double. In units common to both, a step of the grid is
`step`, and a quarter of the double's unit in the last place is `quarter`. -/
structure Grid where
  step : Nat
  quarter : Nat

/-- The grid of step `10 ^ power` over a double with the given binary exponent. -/
def Grid.over (exponent power : Int) : Grid :=
  ⟨powerOfTen (upPart power) * powerOfTwo (downPart (exponent - 2)),
    powerOfTwo (upPart (exponent - 2)) * powerOfTen (downPart power)⟩

/-- Whether a grid point lies in the interval of numbers that read back as the
double. Below a power of two the neighbour is only half as far away. -/
def Grid.hits (grid : Grid) (significand : Nat) (exponent : Int) (point : Nat) : Bool :=
  let below := if significand == powerOfTwo 52 && exponent != -1074 then 1 else 2
  let low := (4 * significand - below) * grid.quarter
  let high := (4 * significand + 2) * grid.quarter
  let place := point * grid.step
  if significand % 2 == 0 then low ≤ place && place ≤ high else low < place && place < high

/-- The better of the two neighbours of the double on the grid, if one reads back. -/
def Grid.choose? (grid : Grid) (significand : Nat) (exponent : Int) : Option Nat :=
  let value := 4 * significand * grid.quarter
  let lower := value / grid.step
  let upper := lower + 1
  match grid.hits significand exponent lower, grid.hits significand exponent upper with
  | true, true =>
    if value - lower * grid.step < upper * grid.step - value then some lower else some upper
  | true, false => some lower
  | false, true => some upper
  | false, false => none

/-- Look through the grids of step `10 ^ power` and finer, `count` of them. -/
def searchGrids (significand : Nat) (exponent power : Int) : Nat → Scaled
  | 0 => ⟨0, 0⟩
  | count + 1 =>
    match (Grid.over exponent power).choose? significand exponent with
    | some digits => ⟨digits, power⟩
    | none => searchGrids significand exponent (power - 1) count

/-- A decimal without zeros at the end of its digits; `fuel` bounds their number. -/
def trimZeros : Nat → Scaled → Scaled
  | 0, decimal => decimal
  | fuel + 1, decimal =>
    if decimal.digits != 0 && decimal.digits % 10 == 0 then
      trimZeros fuel ⟨decimal.digits / 10, decimal.exponent + 1⟩
    else decimal

/-- The shortest decimal of a finite double, leaving its sign aside. -/
def shortest (value : Binary) : Scaled :=
  if value.significand == 0 then ⟨0, 0⟩
  else
    let leading := leadingExponent (value.significand * powerOfTwo (upPart value.exponent))
      (powerOfTwo (downPart value.exponent))
    trimZeros 20 (searchGrids value.significand value.exponent leading 18)

end JavaSurvey.Decimal
