import JavaSurvey.Metrics.Statistics
import JavaSurvey.Proofs.PositionalText
import Mathlib.Algebra.Order.Field.Power
import Mathlib.Algebra.Order.Ring.Rat
import Mathlib.Tactic.Linarith
import Mathlib.Tactic.NormNum.Basic
import Mathlib.Tactic.Ring

/-!
# The order of doubles is the order of numbers

Doubles are compared by sign, exponent and significand, in this order. That is
the order of the numbers they stand for, because significands are normal: only
with the least exponent may the leading bit be missing, so a larger exponent
always means a larger number.

A percentage is tested by comparing doubles. So the test accepts exactly the
doubles that stand for a number from zero to one hundred; negative zero is among
them.

## Main results

* `ofUnpacked_unpack`: the number a double stands for, by its parts.
* `le_iff_toRat_le`: finite doubles are ordered as their numbers.
* `Metrics.isPercentage_iff`: what a percentage is.
-/

namespace JavaSurvey.Decimal

open Float.Model (Format UnpackedFloat)

/-! ## The parts of a double -/

/-- The number that a finite double stands for, leaving its sign aside. -/
def Binary.magnitude (value : Binary) : ℚ :=
  value.significand * 2 ^ value.exponent

/-- The number that a finite double stands for. -/
def Binary.toRat (value : Binary) : ℚ :=
  if value.negative then -value.magnitude else value.magnitude

/-- Whether a sign is the negative one. -/
def isMinus : UnpackedFloat.Sign → Bool
  | .negative => true
  | .positive => false

/-- The number with the given parts. -/
def Double.ofUnpacked : UnpackedFloat → Double
  | .notANumber => .nan
  | .infinity sign => .infinite (isMinus sign)
  | .zero sign => .finite ⟨isMinus sign, 0, -1074⟩
  | .finite sign mantissa exponent _ => .finite ⟨isMinus sign, mantissa, exponent⟩

theorem ofUnpacked_finite (sign : UnpackedFloat.Sign) (mantissa : Nat) (exponent : Int)
    (hpos : 0 < mantissa) :
    Double.ofUnpacked (.finite sign mantissa exponent hpos) =
      .finite ⟨isMinus sign, mantissa, exponent⟩ :=
  rfl

section Parts

variable (bits : BitVec Format.binary64.numBits)

theorem toNat_unpackMantissa :
    (UnpackedFloat.unpackMantissa bits).toNat = bits.toNat % powerOfTwo 52 := by
  unfold UnpackedFloat.unpackMantissa
  rw [BitVec.toNat_cast, BitVec.extractLsb_toNat, Nat.shiftRight_zero]
  rfl

theorem toNat_unpackSign :
    (UnpackedFloat.unpackSign bits).toNat = bits.toNat / powerOfTwo 63 := by
  have hlt : bits.toNat / powerOfTwo 63 < 2 := by
    have := bits.isLt
    exact Nat.div_lt_of_lt_mul this
  unfold UnpackedFloat.unpackSign
  rw [BitVec.toNat_cast, BitVec.extractLsb_toNat, Nat.shiftRight_eq_div_pow]
  exact Nat.mod_eq_of_lt hlt

theorem isMinus_ofBitVec :
    isMinus (UnpackedFloat.Sign.ofBitVec (UnpackedFloat.unpackSign bits)) =
      (bits.toNat / powerOfTwo 63 == 1) := by
  rw [← toNat_unpackSign]
  generalize UnpackedFloat.unpackSign bits = sign
  revert sign
  decide

theorem toNat_withLeadingOne :
    (1#1 ++ UnpackedFloat.unpackMantissa bits).toNat =
      bits.toNat % powerOfTwo 52 + powerOfTwo 52 := by
  rw [BitVec.toNat_append, ← Nat.shiftLeft_add_eq_or_of_lt (BitVec.isLt _),
    toNat_unpackMantissa, Nat.add_comm]
  rfl

end Parts

/-- The bits of a double stand for the number with its parts. -/
theorem ofUnpacked_unpack (bits : BitVec Format.binary64.numBits) :
    Double.ofUnpacked (UnpackedFloat.unpack Format.binary64 bits) =
      Double.ofBits bits.toNat := by
  have hmaximal : UnpackedFloat.unpackExponent bits = -1#_ ↔
      bits.toNat / powerOfTwo 52 % powerOfTwo 11 = powerOfTwo 11 - 1 := by
    rw [← toNat_unpackExponent, ← BitVec.toNat_inj]
    rfl
  have hminimal : UnpackedFloat.unpackExponent bits = 0#_ ↔
      bits.toNat / powerOfTwo 52 % powerOfTwo 11 = 0 := by
    rw [← toNat_unpackExponent, ← BitVec.toNat_inj]
    rfl
  have hplain : UnpackedFloat.unpackMantissa bits = 0#_ ↔
      bits.toNat % powerOfTwo 52 = 0 := by
    rw [← toNat_unpackMantissa, ← BitVec.toNat_inj]
    rfl
  have hbits : Double.ofBits bits.toNat =
      if UnpackedFloat.unpackExponent bits = -1#_ then
        if UnpackedFloat.unpackMantissa bits = 0#_ then
          .infinite (isMinus (.ofBitVec (UnpackedFloat.unpackSign bits)))
        else .nan
      else if UnpackedFloat.unpackExponent bits = 0#_ then
        .finite ⟨isMinus (.ofBitVec (UnpackedFloat.unpackSign bits)),
          bits.toNat % powerOfTwo 52, -1074⟩
      else
        .finite ⟨isMinus (.ofBitVec (UnpackedFloat.unpackSign bits)),
          bits.toNat % powerOfTwo 52 + powerOfTwo 52,
          (bits.toNat / powerOfTwo 52 % powerOfTwo 11 : Nat) - 1075⟩ := by
    unfold Double.ofBits
    simp only [beq_iff_eq, ← hmaximal, ← hminimal, ← hplain, ← isMinus_ofBitVec]
  rw [hbits]
  unfold UnpackedFloat.unpack
  by_cases hinfinite : UnpackedFloat.unpackExponent bits = -1#_
  · rw [if_pos hinfinite, if_pos hinfinite]
    by_cases hzero : UnpackedFloat.unpackMantissa bits = 0#_
    · rw [if_pos hzero, if_pos hzero]
      rfl
    · rw [if_neg hzero, if_neg hzero]
      rfl
  rw [if_neg hinfinite, if_neg hinfinite]
  by_cases hsubnormal : UnpackedFloat.unpackExponent bits = 0#_
  · rw [if_pos hsubnormal, if_pos hsubnormal]
    by_cases hzero : UnpackedFloat.unpackMantissa bits = 0#_
    · rw [dif_pos hzero, ← toNat_unpackMantissa, hzero]
      rfl
    · rw [dif_neg hzero, hsubnormal, ← toNat_unpackMantissa]
      rfl
  · rw [if_neg hsubnormal, if_neg hsubnormal, ofUnpacked_finite, toNat_withLeadingOne,
      toNat_unpackExponent]
    rfl

theorem ofFloat_eq_ofUnpacked (x : Float) :
    Double.ofFloat x = Double.ofUnpacked x.toModel.unpack :=
  (ofUnpacked_unpack x.toModel.toBits.toBitVec).symm

/-! ## Normal significands -/

/-- A significand fits in fifty-three bits, and its leading bit is set unless the
exponent is least. -/
structure Binary.Normal (value : Binary) : Prop where
  lt : value.significand < 2 ^ 53
  leading : -1074 ≠ value.exponent → 2 ^ 52 ≤ value.significand
  least : -1074 ≤ value.exponent

theorem normal_of_ofBits {bits : Nat} {value : Binary}
    (h : Double.ofBits bits = .finite value) : value.Normal := by
  have hfraction : bits % powerOfTwo 52 < 2 ^ 52 := Nat.mod_lt _ (powerOfTwo_pos 52)
  have htwo : powerOfTwo 52 = 2 ^ 52 := rfl
  unfold Double.ofBits at h
  simp only [beq_iff_eq] at h
  split_ifs at h with hinfinite hzero hsubnormal
  · cases h
    refine ⟨?_, fun hne => absurd rfl hne, Int.le_refl _⟩
    show bits % powerOfTwo 52 < 2 ^ 53
    omega
  · cases h
    refine ⟨?_, fun _ => ?_, ?_⟩
    · show bits % powerOfTwo 52 + powerOfTwo 52 < 2 ^ 53
      omega
    · show 2 ^ 52 ≤ bits % powerOfTwo 52 + powerOfTwo 52
      omega
    · show (-1074 : Int) ≤ (_ : Nat) - 1075
      omega

/-- Of two normal numbers the one with the larger exponent is larger, and with the
same exponent the one with the larger significand. -/
theorem compare_iff_le {a b : Binary} (ha : a.Normal) (hb : b.Normal) :
    ((compare a.exponent b.exponent).then
        (compare a.significand b.significand)).isLE = true ↔
      a.magnitude ≤ b.magnitude := by
  have hless : ∀ {a b : Binary}, a.Normal → b.Normal → a.exponent < b.exponent →
      a.magnitude < b.magnitude := by
    intro a b ha hb hlt
    have hleast := ha.least
    have hleading : (2 ^ 52 : ℚ) ≤ b.significand := by
      exact_mod_cast hb.leading (by omega)
    have hsmall : (a.significand : ℚ) < 2 ^ 53 := by exact_mod_cast ha.lt
    have hpos : (0 : ℚ) < 2 ^ a.exponent := by positivity
    have hpower : (2 : ℚ) * 2 ^ a.exponent ≤ 2 ^ b.exponent := by
      have hstep : (2 : ℚ) ^ (a.exponent + 1) ≤ 2 ^ b.exponent :=
        zpow_le_zpow_right₀ (by norm_num) (by omega)
      rwa [zpow_add_one₀ (by norm_num), mul_comm] at hstep
    calc
      a.magnitude < 2 ^ 53 * 2 ^ a.exponent := by
        unfold Binary.magnitude
        gcongr
      _ = 2 ^ 52 * (2 * 2 ^ a.exponent) := by ring
      _ ≤ b.magnitude := by
        unfold Binary.magnitude
        gcongr
  rw [Ordering.isLE_then_iff_or, Int.compare_eq_lt, Int.compare_eq_eq, Std.isLE_compare]
  rcases lt_trichotomy a.exponent b.exponent with hlt | heq | hgt
  · exact iff_of_true (Or.inl hlt) (hless ha hb hlt).le
  · have hpos : (0 : ℚ) < 2 ^ b.exponent := by positivity
    rw [Binary.magnitude, Binary.magnitude, heq, mul_le_mul_iff_of_pos_right hpos]
    simp
  · refine iff_of_false ?_ (not_le_of_gt (hless hb ha hgt))
    omega

/-! ## The order -/

theorem le_iff_unpacked_le (x y : Float) :
    x ≤ y ↔ x.toModel.unpack.le y.toModel.unpack = true := by
  show decide (x.toModel ≤ y.toModel) = true ↔ _
  rw [decide_eq_true_iff]
  rfl

theorem magnitude_pos {value : Binary} (h : 0 < value.significand) :
    0 < value.magnitude := by
  have hsignificand : (0 : ℚ) < value.significand := by exact_mod_cast h
  unfold Binary.magnitude
  positivity

theorem swap_compare (a b : Binary) :
    ((compare a.exponent b.exponent).then (compare a.significand b.significand)).swap =
      (compare b.exponent a.exponent).then (compare b.significand a.significand) := by
  rw [Ordering.swap_then, Int.compare_swap, Nat.compare_swap]

/-- A finite number is zero, or has a significand. -/
theorem zero_or_finite {unpacked : UnpackedFloat} {value : Binary}
    (h : Double.ofUnpacked unpacked = .finite value) :
    (∃ sign, unpacked = .zero sign ∧ value.magnitude = 0) ∨
      ∃ sign mantissa exponent hpos, unpacked = .finite sign mantissa exponent hpos ∧
        value = ⟨isMinus sign, mantissa, exponent⟩ := by
  cases unpacked with
  | notANumber => cases h
  | infinity sign => cases h
  | zero sign =>
      cases h
      refine Or.inl ⟨sign, rfl, ?_⟩
      simp [Binary.magnitude]
  | finite sign mantissa exponent hpos =>
      cases h
      exact Or.inr ⟨sign, mantissa, exponent, hpos, rfl, rfl⟩

theorem toRat_of_magnitude_eq_zero {value : Binary} (h : value.magnitude = 0) :
    value.toRat = 0 := by
  rw [Binary.toRat, h, neg_zero, ite_self]

theorem unpacked_le_iff {first second : UnpackedFloat} {a b : Binary}
    (hfirst : Double.ofUnpacked first = .finite a)
    (hsecond : Double.ofUnpacked second = .finite b) (ha : a.Normal) (hb : b.Normal) :
    first.le second = true ↔ a.toRat ≤ b.toRat := by
  rcases zero_or_finite hfirst with ⟨sign, rfl, hzero⟩ | ⟨sign, m, e, hpos, rfl, rfl⟩
  · rw [toRat_of_magnitude_eq_zero hzero]
    rcases zero_or_finite hsecond with ⟨sign', rfl, hzero'⟩ | ⟨sign', m', e', hpos', rfl, rfl⟩
    · rw [toRat_of_magnitude_eq_zero hzero']
      exact iff_of_true rfl le_rfl
    · have hmagnitude : 0 < (⟨isMinus sign', m', e'⟩ : Binary).magnitude :=
        magnitude_pos hpos'
      cases sign' with
      | negative => exact iff_of_false Bool.false_ne_true (not_le_of_gt (neg_lt_zero.2 hmagnitude))
      | positive => exact iff_of_true rfl hmagnitude.le
  · have hmagnitude : 0 < (⟨isMinus sign, m, e⟩ : Binary).magnitude := magnitude_pos hpos
    rcases zero_or_finite hsecond with ⟨sign', rfl, hzero'⟩ | ⟨sign', m', e', hpos', rfl, rfl⟩
    · rw [toRat_of_magnitude_eq_zero hzero']
      cases sign with
      | negative => exact iff_of_true rfl (neg_lt_zero.2 hmagnitude).le
      | positive => exact iff_of_false Bool.false_ne_true (not_le_of_gt hmagnitude)
    · have hmagnitude' : 0 < (⟨isMinus sign', m', e'⟩ : Binary).magnitude :=
        magnitude_pos hpos'
      cases sign with
      | negative =>
          cases sign' with
          | negative =>
              refine Iff.trans ?_ neg_le_neg_iff.symm
              rw [← compare_iff_le hb ha, ← swap_compare]
              rfl
          | positive =>
              refine iff_of_true rfl (le_trans (neg_lt_zero.2 hmagnitude).le hmagnitude'.le)
      | positive =>
          cases sign' with
          | negative =>
              refine iff_of_false Bool.false_ne_true (not_le_of_gt ?_)
              exact (neg_lt_zero.2 hmagnitude').trans hmagnitude
          | positive => exact compare_iff_le ha hb

/-- Finite doubles are ordered as the numbers they stand for. -/
theorem le_iff_toRat_le {x y : Float} {a b : Binary} (hx : Double.ofFloat x = .finite a)
    (hy : Double.ofFloat y = .finite b) : x ≤ y ↔ a.toRat ≤ b.toRat := by
  have ha : a.Normal := normal_of_ofBits hx
  have hb : b.Normal := normal_of_ofBits hy
  rw [ofFloat_eq_ofUnpacked] at hx hy
  rw [le_iff_unpacked_le, unpacked_le_iff hx hy ha hb]

theorem isFinite_iff (x : Float) :
    x.isFinite = true ↔ ∃ value, Double.ofFloat x = .finite value := by
  rw [ofFloat_eq_ofUnpacked]
  show x.toModel.unpack.isFinite = true ↔ _
  cases x.toModel.unpack with
  | notANumber =>
      refine iff_of_false Bool.false_ne_true ?_
      rintro ⟨value, hvalue⟩
      cases hvalue
  | infinity sign =>
      refine iff_of_false Bool.false_ne_true ?_
      rintro ⟨value, hvalue⟩
      cases hvalue
  | zero sign => exact iff_of_true rfl ⟨_, rfl⟩
  | finite sign mantissa exponent hpos => exact iff_of_true rfl ⟨_, rfl⟩

/-- A finite number within bounds, which belong to the range. -/
def Double.Within (low high : ℚ) (number : Double) : Prop :=
  ∃ value, number = .finite value ∧ low ≤ value.toRat ∧ value.toRat ≤ high

/-- A finite double from one double to another stands for a number from the first
one's to the second one's. -/
theorem within_iff {x low high : Float} {a b : Binary}
    (hlow : Double.ofFloat low = .finite a) (hhigh : Double.ofFloat high = .finite b) :
    (Double.ofFloat x).Within a.toRat b.toRat ↔
      x.isFinite = true ∧ low ≤ x ∧ x ≤ high := by
  rw [isFinite_iff]
  constructor
  · rintro ⟨value, hvalue, hge, hle⟩
    exact ⟨⟨value, hvalue⟩, (le_iff_toRat_le hlow hvalue).2 hge,
      (le_iff_toRat_le hvalue hhigh).2 hle⟩
  · rintro ⟨⟨value, hvalue⟩, hge, hle⟩
    exact ⟨value, hvalue, (le_iff_toRat_le hlow hvalue).1 hge,
      (le_iff_toRat_le hvalue hhigh).1 hle⟩

end JavaSurvey.Decimal

namespace JavaSurvey.Metrics

open Decimal (Binary Double)

/-- A double is a percentage exactly if it stands for a number from zero to one
hundred. -/
theorem isPercentage_iff (percent : Float) :
    isPercentage percent = true ↔ (Double.ofFloat percent).Within 0 100 := by
  have hlow : Double.ofFloat 0.0 = .finite ⟨false, 0, -1074⟩ := rfl
  have hhigh : Double.ofFloat 100.0 = .finite ⟨false, 7036874417766400, -46⟩ := rfl
  have hzero : (⟨false, 0, -1074⟩ : Binary).toRat = 0 :=
    Decimal.toRat_of_magnitude_eq_zero (by simp [Binary.magnitude])
  have hhundred : (⟨false, 7036874417766400, -46⟩ : Binary).toRat = 100 := by
    norm_num [Binary.toRat, Binary.magnitude]
  rw [← hzero, ← hhundred, Decimal.within_iff hlow hhigh, isPercentage, Bool.and_eq_true,
    Bool.and_eq_true, decide_eq_true_iff, decide_eq_true_iff, and_assoc]

end JavaSurvey.Metrics
