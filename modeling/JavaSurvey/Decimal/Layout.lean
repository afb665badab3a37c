import JavaSurvey.Decimal.Shortest

/-!
# Writing doubles

A layout decides what a formatter leaves open once the digits are known: when a
number is written with an exponent, whether a whole number shows a fraction, and
how the values that are not numbers are called.
-/

namespace JavaSurvey.Decimal

/-- How doubles are written. -/
structure Layout where
  /-- Whether a number whose leading digit has this exponent is written without an exponent. -/
  positional : Int → Bool
  /-- Whether whole numbers written without an exponent end in `.0`. -/
  showFraction : Bool
  nan : String
  infinity : String
  minusInfinity : String

/-- The digits of a natural number. -/
def digitsText (n : Nat) : List Char :=
  Nat.toDigits 10 n

/-- A decimal without exponent. -/
def positionalText (showFraction : Bool) (decimal : Scaled) : List Char :=
  let digits := digitsText decimal.digits
  match decimal.exponent with
  | .ofNat zeros =>
    digits ++ List.replicate zeros '0' ++ (if showFraction then ['.', '0'] else [])
  | .negSucc places =>
    let places := places + 1
    if places < digits.length then
      digits.take (digits.length - places) ++ '.' :: digits.drop (digits.length - places)
    else '0' :: '.' :: List.replicate (places - digits.length) '0' ++ digits

/-- A decimal with one digit before the point and a signed exponent. -/
def exponentText (decimal : Scaled) : List Char :=
  let digits := digitsText decimal.digits
  let exponent := decimal.exponent + (digits.length : Int) - 1
  let mantissa :=
    match digits with
    | first :: second :: rest => first :: '.' :: second :: rest
    | short => short
  let power :=
    match exponent with
    | .ofNat n => '+' :: digitsText n
    | .negSucc n => '-' :: digitsText (n + 1)
  mantissa ++ 'e' :: power

/-- The text of a double in a layout. -/
def Layout.write (layout : Layout) (x : Float) : String :=
  match Double.ofFloat x with
  | .nan => layout.nan
  | .infinite false => layout.infinity
  | .infinite true => layout.minusInfinity
  | .finite value =>
    let decimal := shortest value
    let leading := decimal.exponent + ((digitsText decimal.digits).length : Int) - 1
    let body :=
      if decimal.digits == 0 || layout.positional leading then
        positionalText layout.showFraction decimal
      else exponentText decimal
    String.ofList (if value.negative then '-' :: body else body)

/-- Doubles in running text: never an exponent, and whole numbers without a point. -/
def plain : Layout where
  positional := fun _ => true
  showFraction := false
  nan := "NaN"
  infinity := "inf"
  minusInfinity := "-inf"

end JavaSurvey.Decimal
