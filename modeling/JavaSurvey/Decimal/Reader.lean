import JavaSurvey.Decimal.Shortest
import JavaSurvey.Text.Digits

/-!
# Reading doubles

The double nearest to a decimal number, and the texts that are read as doubles:
an optional sign, then digits with an optional point and an optional exponent, or
one of the names of the values that are not numbers.
-/

namespace JavaSurvey.Decimal

open Text (digitsValue)

/-- The double nearest to `digits * 10 ^ exponent`. Far outside the range of doubles
the answer is known without computing the power. -/
def nearest (negative : Bool) (digits : Nat) (exponent : Int) : Float :=
  let leading := (digitCount digits : Int) + exponent
  let magnitude : Float :=
    if digits == 0 || leading < -400 then 0.0
    else if 400 < leading then 1.0 / 0.0
    else
      match exponent with
      | .ofNat power => Float.ofScientific digits false power
      | .negSucc places => Float.ofScientific digits true (places + 1)
  if negative then -magnitude else magnitude

/-- A number without sign: its digits as one number, and its exponent. -/
structure Unsigned where
  digits : Nat
  exponent : Int

/-- The exponent behind the letter `e`: an optional sign and at least one digit. -/
def exponent? (text : List Char) : Option Int :=
  let (negative, digits) :=
    match text with
    | '+' :: rest => (false, rest)
    | '-' :: rest => (true, rest)
    | rest => (false, rest)
  if digits.isEmpty || !digits.all Char.isDigit then none
  else
    let value : Int := digitsValue digits
    some (if negative then -value else value)

/-- A number without sign: digits before and after an optional point, at least one
of them, and an optional exponent. -/
def unsigned? (text : List Char) : Option Unsigned := do
  let (whole, rest) := text.span Char.isDigit
  let (fraction, rest) :=
    match rest with
    | '.' :: more => more.span Char.isDigit
    | other => ([], other)
  if whole.isEmpty && fraction.isEmpty then none
  else
    let power ←
      match rest with
      | [] => some 0
      | c :: more => if c == 'e' || c == 'E' then exponent? more else none
    some ⟨digitsValue (whole ++ fraction), power - (fraction.length : Int)⟩

/-- A text without regard to the case of ASCII letters. -/
def lowerCase (text : List Char) : List Char :=
  text.map Char.toLower

/-- The double that a text stands for. -/
def read? (text : String) : Option Float :=
  let (negative, body) :=
    match text.toList with
    | '+' :: rest => (false, rest)
    | '-' :: rest => (true, rest)
    | rest => (false, rest)
  let name := String.ofList (lowerCase body)
  if name == "inf" || name == "infinity" then
    some (if negative then -(1.0 / 0.0) else 1.0 / 0.0)
  else if name == "nan" then some (0.0 / 0.0)
  else (unsigned? body).map fun number => nearest negative number.digits number.exponent

end JavaSurvey.Decimal
