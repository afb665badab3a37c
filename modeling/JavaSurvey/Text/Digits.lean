/-!
# Digits

The values of hexadecimal digits and of rows of decimal ones, and the bound of
the natural numbers that are read from them.
-/

namespace JavaSurvey.Text

/-- The value of a hexadecimal digit. -/
def hexValue? (c : Char) : Option Nat :=
  if '0' ≤ c && c ≤ '9' then some (c.toNat - '0'.toNat)
  else if 'a' ≤ c && c ≤ 'f' then some (c.toNat - 'a'.toNat + 10)
  else if 'A' ≤ c && c ≤ 'F' then some (c.toNat - 'A'.toNat + 10)
  else none

/-- The value of a row of decimal digits, continuing from `value`. -/
def digitsValueFrom (value : Nat) : List Char → Nat
  | [] => value
  | c :: rest => digitsValueFrom (value * 10 + (c.toNat - '0'.toNat)) rest

/-- The value of a row of decimal digits. -/
def digitsValue (digits : List Char) : Nat :=
  digitsValueFrom 0 digits

/-- The largest natural number of 64 bits. Counts, lines and numbers given on the
command line may be as large as that. -/
def maxNatural : Nat := 18446744073709551615

end JavaSurvey.Text
