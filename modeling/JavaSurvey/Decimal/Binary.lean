/-!
# Doubles as exact numbers

A double is taken apart into a sign, a significand and a power of two, so that
rounding questions about it can be decided in whole numbers.
-/

namespace JavaSurvey.Decimal

/-- A power of two. -/
def powerOfTwo (exponent : Nat) : Nat := Nat.pow 2 exponent

/-- A power of ten. -/
def powerOfTen (exponent : Nat) : Nat := Nat.pow 10 exponent

/-- A finite double: `significand * 2 ^ exponent`, negated if `negative`. -/
structure Binary where
  negative : Bool
  significand : Nat
  exponent : Int
deriving DecidableEq, Repr

/-- The number a double stands for. -/
inductive Double where
  | nan
  | infinite (negative : Bool)
  | finite (value : Binary)
deriving DecidableEq, Repr

/-- The double with the given bits: a sign bit, eleven exponent bits, and fifty-two
bits of the significand, whose leading one is implied unless the exponent is least. -/
def Double.ofBits (bits : Nat) : Double :=
  let negative := bits / powerOfTwo 63 == 1
  let biased : Nat := bits / powerOfTwo 52 % powerOfTwo 11
  let fraction : Nat := bits % powerOfTwo 52
  if biased == powerOfTwo 11 - 1 then
    if fraction == 0 then .infinite negative else .nan
  else if biased == 0 then .finite ⟨negative, fraction, -1074⟩
  else .finite ⟨negative, fraction + powerOfTwo 52, (biased : Int) - 1075⟩

/-- The number a double stands for. -/
def Double.ofFloat (x : Float) : Double :=
  .ofBits x.toBits.toNat

/-- The least whole number not below a double; zero for negative numbers, and for
what is not a number. -/
def ceiling (x : Float) : Nat :=
  match Double.ofFloat x with
  | .finite ⟨false, significand, .ofNat exponent⟩ => significand * powerOfTwo exponent
  | .finite ⟨false, significand, .negSucc exponent⟩ =>
    (significand + powerOfTwo (exponent + 1) - 1) / powerOfTwo (exponent + 1)
  | _ => 0

end JavaSurvey.Decimal
