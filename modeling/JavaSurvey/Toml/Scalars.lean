import JavaSurvey.Data.Calendar
import JavaSurvey.Decimal.Reader
import JavaSurvey.Toml.Strings
import JavaSurvey.Toml.Value

/-!
# Numbers, dates and times of TOML

Digits may be grouped by underscores, one at a time and between digits only.
Integers have 64 bits; decimal ones have no leading zeros, and those in other bases
have no sign. Dates must exist in the calendar.
-/

namespace JavaSurvey.Toml

open Data (daysInMonth)
open Text (digitsValue)

/-- Whether every underscore stands between two digits; `afterDigit` tells whether a
digit stands in front. -/
def groupsDigits (afterDigit : Bool) : List Char → Bool
  | [] => afterDigit
  | '_' :: rest => afterDigit && groupsDigits false rest
  | _ :: rest => groupsDigits true rest

/-- The digits in front, without the underscores that group them. -/
def readDigits? (isDigit : Char → Bool) (text : List Char) : Option (List Char × List Char) :=
  let (run, rest) := text.span fun c => isDigit c || c == '_'
  if groupsDigits false run then some (run.filter (· != '_'), rest) else none

/-- An integer, if it has 64 bits. -/
def integer? (n : Int) : Option Value :=
  if minInteger ≤ n && n ≤ maxInteger then some (.integer n) else none

/-- The number that digits of a base stand for. -/
def radixValue (base : Nat) (digits : List Char) : Nat :=
  digits.foldl (fun value c => value * base + (hexValue? c).getD 0) 0

/-- An integer behind the mark of its base. -/
def readRadix? (base : Nat) (text : List Char) : Option (Value × List Char) := do
  let (digits, rest) ← readDigits? (fun c => (hexValue? c).any (· < base)) text
  some (← integer? (radixValue base digits), rest)

/-- The fraction in front: its digits, or none if there is no point. -/
def readFraction? : List Char → Option (Option (List Char) × List Char)
  | '.' :: rest => (readDigits? Char.isDigit rest).map fun (digits, rest) => (some digits, rest)
  | rest => some (none, rest)

/-- Take a sign off the front: whether there is one, whether it is a minus, and what
follows. -/
def splitSign : List Char → Bool × Bool × List Char
  | '+' :: rest => (true, false, rest)
  | '-' :: rest => (true, true, rest)
  | rest => (false, false, rest)

/-- The exponent in front, or none if there is no letter for it. -/
def readExponent? : List Char → Option (Option Int × List Char)
  | [] => some (none, [])
  | c :: rest =>
    if c == 'e' || c == 'E' then do
      let (_, negative, rest) := splitSign rest
      let (digits, rest) ← readDigits? Char.isDigit rest
      let value : Int := digitsValue digits
      some (some (if negative then -value else value), rest)
    else some (none, c :: rest)

/-- A float, which must not be too large for a double. -/
def float? (x : Float) : Option Value :=
  if x == 1.0 / 0.0 then none else some (.float x)

/-- A decimal integer or a float. -/
def readDecimal? (negative : Bool) (text : List Char) : Option (Value × List Char) := do
  let (whole, rest) ← readDigits? Char.isDigit text
  if 1 < whole.length && whole.head? == some '0' then none
  let (fraction, rest) ← readFraction? rest
  let (exponent, rest) ← readExponent? rest
  if fraction.isNone && exponent.isNone then
    let value : Int := digitsValue whole
    some (← integer? (if negative then -value else value), rest)
  else
    let fraction := fraction.getD []
    let x := Decimal.nearest negative (digitsValue (whole ++ fraction))
      (exponent.getD 0 - (fraction.length : Int))
    some (← float? x, rest)

/-- A number, or one of the floats that are none. -/
def readNumber? (text : List Char) : Option (Value × List Char) :=
  match splitSign text with
  | (_, negative, 'i' :: 'n' :: 'f' :: rest) =>
    some (.float (if negative then -(1.0 / 0.0) else 1.0 / 0.0), rest)
  | (_, _, 'n' :: 'a' :: 'n' :: rest) => some (.float (0.0 / 0.0), rest)
  | (false, _, '0' :: 'x' :: rest) => readRadix? 16 rest
  | (false, _, '0' :: 'o' :: rest) => readRadix? 8 rest
  | (false, _, '0' :: 'b' :: rest) => readRadix? 2 rest
  | (_, negative, rest) => readDecimal? negative rest

/-! ## Dates and times -/

/-- The number that exactly `count` digits in front stand for. -/
def readFixed? (count : Nat) (text : List Char) : Option (Nat × List Char) :=
  let digits := text.take count
  if digits.length = count && digits.all Char.isDigit then
    some (digitsValue digits, text.drop count)
  else none

/-- What follows the date in front. -/
def skipDate? (text : List Char) : Option (List Char) := do
  let (year, rest) ← readFixed? 4 text
  let '-' :: rest := rest | none
  let (month, rest) ← readFixed? 2 rest
  let '-' :: rest := rest | none
  let (day, rest) ← readFixed? 2 rest
  if 1 ≤ month && month ≤ 12 && 1 ≤ day && day ≤ daysInMonth year month then some rest else none

/-- What follows the hours and minutes in front. -/
def skipClock? (text : List Char) : Option (List Char) := do
  let (hour, rest) ← readFixed? 2 text
  let ':' :: rest := rest | none
  let (minute, rest) ← readFixed? 2 rest
  if hour ≤ 23 && minute ≤ 59 then some rest else none

/-- What follows the time of day in front. A minute may have a leap second. -/
def skipTime? (text : List Char) : Option (List Char) := do
  let ':' :: rest ← skipClock? text | none
  let (second, rest) ← readFixed? 2 rest
  if 60 < second then none
  match rest with
  | '.' :: fraction =>
    if (fraction.head?).any Char.isDigit then some (fraction.dropWhile Char.isDigit) else some rest
  | _ => some rest

/-- What follows the distance to universal time in front, which may be missing. -/
def skipOffset (text : List Char) : List Char :=
  match text with
  | 'Z' :: rest => rest
  | 'z' :: rest => rest
  | '+' :: rest => (skipClock? rest).getD text
  | '-' :: rest => (skipClock? rest).getD text
  | _ => text

/-- What follows the time that belongs to a date, which may be missing. -/
def skipTimeOfDate (text : List Char) : List Char :=
  match text with
  | [] => []
  | c :: rest =>
    if c == 'T' || c == 't' || c == ' ' then ((skipTime? rest).map skipOffset).getD text else text

/-- What follows the date or time in front. -/
def skipMoment? (text : List Char) : Option (List Char) :=
  match skipDate? text with
  | some rest => some (skipTimeOfDate rest)
  | none => skipTime? text

end JavaSurvey.Toml
