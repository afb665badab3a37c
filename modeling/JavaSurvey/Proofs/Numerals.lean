import JavaSurvey.Text.Digits
import Mathlib.Data.List.TakeDrop

/-!
# Decimal numerals

Natural numbers are written as rows of decimal digits without zeros in front.
Every reader of such a row takes all the digits that it finds, so a row is read
whole as long as no digit follows, and its value is the number.

## Main results

* `span_of_stops`: a run of characters is taken whole.
* `Text.digitsValue_toDigits`: the value of a numeral.
* `head?_toDigits`: a numeral of several digits does not start with zero.
-/

namespace JavaSurvey

/-- A text that does not go on with a character of a class. -/
def Stops (p : Char → Bool) (rest : List Char) : Prop :=
  ∀ c tail, rest = c :: tail → p c = false

theorem stops_nil (p : Char → Bool) : Stops p [] := by
  intro c tail h
  cases h

theorem stops_cons {p : Char → Bool} {c : Char} (h : p c = false)
    (tail : List Char) : Stops p (c :: tail) := by
  intro d tail' heq
  cases heq
  exact h

theorem Stops.ne_cons {p : Char → Bool} {rest : List Char} (h : Stops p rest)
    {c : Char} (hc : p c = true) (tail : List Char) : rest ≠ c :: tail := by
  intro heq
  rw [h c tail heq] at hc
  cases hc

/-- A character of a class is none outside of it. -/
theorem ne_of_class {p : Char → Bool} {c d : Char} (hc : p c = true)
    (hd : p d = false) : c ≠ d := by
  rintro rfl
  rw [hc] at hd
  cases hd

/-- A run of characters of a class is taken whole. -/
theorem span_of_stops {p : Char → Bool} {run rest : List Char}
    (hrun : ∀ c ∈ run, p c = true) (hrest : Stops p rest) :
    (run ++ rest).span p = (run, rest) := by
  have hstop : rest.takeWhile p = [] ∧ rest.dropWhile p = rest := by
    cases rest with
    | nil => exact ⟨rfl, rfl⟩
    | cons c tail =>
        have hc := hrest c tail rfl
        simp [hc]
  rw [List.span_eq_takeWhile_dropWhile, List.takeWhile_append_of_pos hrun,
    List.dropWhile_append_of_pos hrun, hstop.1, hstop.2, List.append_nil]

/-! ## Rows of digits -/

theorem isDigit_of_mem_numeral {n : Nat} {c : Char}
    (h : c ∈ Nat.toDigits 10 n) : c.isDigit = true :=
  Nat.isDigit_of_mem_toDigits (by decide) (by decide) h

theorem all_isDigit_toDigits (n : Nat) : (Nat.toDigits 10 n).all Char.isDigit = true :=
  List.all_eq_true.2 fun _ hc => isDigit_of_mem_numeral hc

theorem isEmpty_toDigits (n : Nat) : (Nat.toDigits 10 n).isEmpty = false :=
  List.isEmpty_eq_false_iff.2 Nat.toDigits_ne_nil

/-- A numeral of several digits does not start with zero. -/
theorem head?_toDigits {n : Nat} (h : n ≠ 0) :
    (Nat.toDigits 10 n).head? ≠ some '0' := by
  induction n using Nat.strongRecOn with
  | ind n ih =>
      by_cases hsmall : n < 10
      · have hdigit : ∀ m < 10, m ≠ 0 → Nat.digitChar m ≠ '0' := by decide
        rw [Nat.toDigits_of_lt_base hsmall, List.head?_cons]
        intro heq
        exact hdigit n hsmall h (Option.some.inj heq)
      · have hfront : n / 10 ≠ 0 := by omega
        have hhead := ih (n / 10) (by omega) hfront
        rw [Nat.toDigits_of_base_le (by decide) (by omega), List.head?_append]
        cases hdigits : (Nat.toDigits 10 (n / 10)).head? with
        | none => exact absurd (List.head?_eq_none_iff.1 hdigits) Nat.toDigits_ne_nil
        | some c =>
            rw [hdigits] at hhead
            exact hhead

namespace Text

theorem digitsValueFrom_eq (value : Nat) (digits : List Char) :
    digitsValueFrom value digits = Nat.ofDigitChars 10 digits value := by
  induction digits generalizing value with
  | nil => exact Nat.ofDigitChars_nil.symm
  | cons c digits ih =>
      show digitsValueFrom (value * 10 + (c.toNat - '0'.toNat)) digits = _
      rw [ih, Nat.ofDigitChars_cons, Nat.mul_comm]

theorem digitsValue_toDigits (n : Nat) :
    digitsValue (Nat.toDigits 10 n) = n := by
  rw [digitsValue, digitsValueFrom_eq, Nat.ofDigitChars_ten_toDigits]

end Text

end JavaSurvey
