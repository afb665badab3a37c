import JavaSurvey.Decimal.Layout
import JavaSurvey.Decimal.Reader
import JavaSurvey.Proofs.Numerals

/-!
# Doubles without exponents

A finite double that is written without an exponent is a whole part, a point and
a fraction, both of them digits, behind a minus if it is negative. No zero stands
in front of other digits of the whole part: the shortest decimal of a double has
no digits but for zero itself, and then no exponent. Reading such a text rounds
the number that its digits stand for.

## Main results

* `zeroIsPlain_shortest`: only zero has no digits.
* `pointed_positionalText`: what a decimal is written as.
* `read?_of_pointed`: what such a text is read as.
* `not_infinite_of_finite`: a finite double does not equal infinity.
-/

namespace JavaSurvey.Decimal

open Float.Model (Format UnpackedFloat)
open Text (digitsValue)

/-! ## Digits of the shortest decimal -/

theorem powerOfTwo_pos (exponent : Nat) : 0 < powerOfTwo exponent :=
  Nat.pow_pos (by decide)

theorem powerOfTen_pos (exponent : Nat) : 0 < powerOfTen exponent :=
  Nat.pow_pos (by decide)

/-- Zero does not read back as a positive double. -/
theorem not_hits_zero {grid : Grid} (hquarter : 0 < grid.quarter) {significand : Nat}
    (hsignificand : significand ≠ 0) (exponent : Int) :
    grid.hits significand exponent 0 = false := by
  have hlow : ∀ below, below ≤ 2 → 0 < (4 * significand - below) * grid.quarter := by
    intro below hbelow
    exact Nat.mul_pos (by omega) hquarter
  have hone := hlow 1 (by decide)
  have htwo := hlow 2 (by decide)
  unfold Grid.hits
  simp only [Nat.zero_mul]
  split <;> split <;> simp <;> omega

theorem hits_of_choose? {grid : Grid} {significand : Nat} {exponent : Int} {digits : Nat}
    (hchosen : grid.choose? significand exponent = some digits) :
    grid.hits significand exponent digits = true := by
  simp only [Grid.choose?] at hchosen
  split at hchosen
  next hlower hupper =>
    split at hchosen <;> cases hchosen
    · exact hlower
    · exact hupper
  next hlower _ =>
    cases hchosen
    exact hlower
  next _ hupper =>
    cases hchosen
    exact hupper
  next => cases hchosen

/-- A decimal without digits has no exponent either. -/
def ZeroIsPlain (decimal : Scaled) : Prop :=
  decimal.digits = 0 → decimal.exponent = 0

theorem zeroIsPlain_searchGrids {significand : Nat} (hsignificand : significand ≠ 0)
    (exponent power : Int) (count : Nat) :
    ZeroIsPlain (searchGrids significand exponent power count) := by
  induction count generalizing power with
  | zero => exact fun _ => rfl
  | succ count ih =>
      rw [searchGrids]
      split
      next digits hchosen =>
        intro hzero
        have hhits := hits_of_choose? hchosen
        have hquarter : 0 < (Grid.over exponent power).quarter :=
          Nat.mul_pos (powerOfTwo_pos _) (powerOfTen_pos _)
        rw [show digits = 0 from hzero, not_hits_zero hquarter hsignificand] at hhits
        exact absurd hhits (by decide)
      next => exact ih (power - 1)

theorem zeroIsPlain_trimZeros (fuel : Nat) {decimal : Scaled}
    (hdecimal : ZeroIsPlain decimal) : ZeroIsPlain (trimZeros fuel decimal) := by
  induction fuel generalizing decimal with
  | zero => exact hdecimal
  | succ fuel ih =>
      rw [trimZeros]
      split
      next htrim =>
        simp only [Bool.and_eq_true, bne_iff_ne, beq_iff_eq] at htrim
        apply ih
        intro hzero
        have hdigits : decimal.digits / 10 = 0 := hzero
        omega
      next => exact hdecimal

/-- Only zero is written without digits. -/
theorem zeroIsPlain_shortest (value : Binary) : ZeroIsPlain (shortest value) := by
  unfold shortest
  split
  next => exact fun _ => rfl
  next hsignificand =>
    rw [beq_iff_eq] at hsignificand
    exact zeroIsPlain_trimZeros 20 (zeroIsPlain_searchGrids hsignificand _ _ _)

/-! ## Digits around a point -/

/-- Digits on both sides of a point, without a zero in front of other digits. -/
structure Pointed (whole fraction : List Char) : Prop where
  whole_isDigit : ∀ c ∈ whole, c.isDigit = true
  fraction_isDigit : ∀ c ∈ fraction, c.isDigit = true
  whole_ne_nil : whole ≠ []
  fraction_ne_nil : fraction ≠ []
  leading : 1 < whole.length → whole.head? ≠ some '0'

theorem isDigit_of_mem_replicate {count : Nat} {c : Char}
    (hc : c ∈ List.replicate count '0') : c.isDigit = true := by
  rw [List.eq_of_mem_replicate hc]
  rfl

theorem digitsText_ne_nil (n : Nat) : digitsText n ≠ [] :=
  Nat.toDigits_ne_nil

/-- A decimal without exponent is digits around a point. The three cases are those
of the exponent: zeros behind the digits, a point between them, or zeros in front
of them. -/
theorem pointed_positionalText {decimal : Scaled} (hdecimal : ZeroIsPlain decimal) :
    ∃ whole fraction, positionalText true decimal = whole ++ '.' :: fraction ∧
      Pointed whole fraction := by
  have hdigits : ∀ c ∈ digitsText decimal.digits, c.isDigit = true :=
    fun c hc => isDigit_of_mem_numeral hc
  have hne := digitsText_ne_nil decimal.digits
  have hhead : decimal.digits ≠ 0 → (digitsText decimal.digits).head? ≠ some '0' :=
    head?_toDigits
  have hzero : decimal.digits = 0 → digitsText decimal.digits = ['0'] := by
    intro hzero
    rw [hzero]
    rfl
  simp only [positionalText]
  split
  next zeros hexponent =>
    refine ⟨digitsText decimal.digits ++ List.replicate zeros '0', ['0'], rfl, ?_⟩
    refine ⟨?_, by simp, by simp [hne], by simp, ?_⟩
    · intro c hc
      rcases List.mem_append.mp hc with hc | hc
      · exact hdigits c hc
      · exact isDigit_of_mem_replicate hc
    · intro hlength
      by_cases hplain : decimal.digits = 0
      · have hzeros : zeros = 0 := by
          have hnone := hdecimal hplain
          rw [hexponent] at hnone
          exact Int.ofNat_eq_zero.mp hnone
        rw [hzero hplain, hzeros] at hlength
        exact absurd hlength (by decide)
      · rw [List.head?_append, Option.or_of_isSome (by simpa using hne)]
        exact hhead hplain
  next places hexponent =>
    split
    next hlong =>
      have hplain : decimal.digits ≠ 0 := by
        intro hplain
        rw [hzero hplain] at hlong
        simp at hlong
      refine ⟨_, _, rfl, ?_⟩
      refine ⟨fun c hc => hdigits c (List.mem_of_mem_take hc),
        fun c hc => hdigits c (List.mem_of_mem_drop hc), ?_, ?_, ?_⟩
      · rw [ne_eq, List.take_eq_nil_iff]
        simp only [hne, or_false]
        omega
      · rw [ne_eq, List.drop_eq_nil_iff]
        omega
      · intro _
        rw [List.head?_take, if_neg (by omega)]
        exact hhead hplain
    next hshort =>
      refine ⟨['0'], List.replicate (places + 1 - (digitsText decimal.digits).length) '0' ++
        digitsText decimal.digits, rfl, ?_⟩
      refine ⟨by simp, ?_, by simp, by simp [hne], by simp⟩
      intro c hc
      rcases List.mem_append.mp hc with hc | hc
      · exact isDigit_of_mem_replicate hc
      · exact hdigits c hc

/-- The sign in front of a number. -/
def signText (negative : Bool) : List Char :=
  if negative then ['-'] else []

/-- What a finite double is written as where no exponent is allowed. -/
theorem pointed_write {layout : Layout} (hpositional : ∀ leading, layout.positional leading = true)
    (hfraction : layout.showFraction = true) {x : Float} {value : Binary}
    (hx : Double.ofFloat x = .finite value) :
    ∃ whole fraction, (layout.write x).toList =
        signText value.negative ++ (whole ++ '.' :: fraction) ∧ Pointed whole fraction := by
  obtain ⟨whole, fraction, hbody, hpointed⟩ :=
    pointed_positionalText (zeroIsPlain_shortest value)
  refine ⟨whole, fraction, ?_, hpointed⟩
  simp only [Layout.write, hx, hpositional, hfraction, Bool.or_true, if_true, hbody,
    String.toList_ofList, signText]
  cases value.negative <;> rfl

/-! ## Reading -/

theorem Pointed.exists_head {whole fraction : List Char} (h : Pointed whole fraction) :
    ∃ c tail, whole = c :: tail ∧ c.isDigit = true := by
  obtain ⟨c, tail, heq⟩ := List.exists_cons_of_ne_nil h.whole_ne_nil
  exact ⟨c, tail, heq, h.whole_isDigit c (by rw [heq]; exact List.mem_cons_self)⟩

theorem unsigned?_of_pointed {whole fraction : List Char} (h : Pointed whole fraction) :
    unsigned? (whole ++ '.' :: fraction) =
      some ⟨digitsValue (whole ++ fraction), 0 - (fraction.length : Int)⟩ := by
  have hwhole : (whole ++ '.' :: fraction).span Char.isDigit = (whole, '.' :: fraction) :=
    span_of_stops h.whole_isDigit (stops_cons rfl fraction)
  have hfraction : fraction.span Char.isDigit = (fraction, []) := by
    have hspan := span_of_stops h.fraction_isDigit (stops_nil Char.isDigit)
    rw [List.append_nil] at hspan
    exact hspan
  have hne : whole.isEmpty = false := by
    simpa using h.whole_ne_nil
  simp only [unsigned?, hwhole, hfraction, hne]
  rfl

theorem toLower_of_isDigit {c : Char} (hc : c.isDigit = true) : c.toLower = c := by
  simp only [Char.isDigit, Bool.and_eq_true, decide_eq_true_eq] at hc
  have hupper : ¬ (c.val ≥ 'A'.val ∧ c.val ≤ 'Z'.val) := by
    intro hupper
    exact absurd (UInt32.le_trans hupper.1 hc.2) (by decide)
  exact dif_neg hupper

/-- No name of a value that is not a number begins with a digit. -/
theorem lowerCase_ne_name {c : Char} (hc : c.isDigit = true) (tail : List Char)
    (first : Char) (more : List Char) (hfirst : first.isDigit = false) :
    (String.ofList (lowerCase (c :: tail)) == String.ofList (first :: more)) = false := by
  rw [beq_eq_false_iff_ne]
  intro heq
  have hlist := congrArg String.toList heq
  rw [String.toList_ofList, String.toList_ofList, lowerCase, List.map_cons,
    toLower_of_isDigit hc, List.cons.injEq] at hlist
  exact ne_of_class hc hfirst hlist.1

/-- A number with a point is read as the double nearest to it. -/
theorem read?_of_pointed (negative : Bool) {whole fraction : List Char}
    (h : Pointed whole fraction) {text : String}
    (htext : text.toList = signText negative ++ (whole ++ '.' :: fraction)) :
    read? text = some (nearest negative (digitsValue (whole ++ fraction))
      (0 - (fraction.length : Int))) := by
  obtain ⟨c, tail, hwhole, hc⟩ := h.exists_head
  have hunsigned := unsigned?_of_pointed h
  have hbody : whole ++ '.' :: fraction = c :: (tail ++ '.' :: fraction) := by
    rw [hwhole, List.cons_append]
  have hinf : (String.ofList (lowerCase (whole ++ '.' :: fraction)) == "inf") = false := by
    rw [hbody]
    exact lowerCase_ne_name hc _ 'i' ['n', 'f'] rfl
  have hinfinity :
      (String.ofList (lowerCase (whole ++ '.' :: fraction)) == "infinity") = false := by
    rw [hbody]
    exact lowerCase_ne_name hc _ 'i' ['n', 'f', 'i', 'n', 'i', 't', 'y'] rfl
  have hnan : (String.ofList (lowerCase (whole ++ '.' :: fraction)) == "nan") = false := by
    rw [hbody]
    exact lowerCase_ne_name hc _ 'n' ['a', 'n'] rfl
  cases negative with
  | true =>
      simp only [read?, htext, signText, if_true, List.singleton_append, hinf, hinfinity,
        hnan, hunsigned]
      rfl
  | false =>
      simp only [read?, htext, signText, List.nil_append, Bool.false_eq_true, if_false]
      have hsign : ∀ sign rest, sign.isDigit = false →
          whole ++ '.' :: fraction ≠ sign :: rest := by
        intro sign rest hsign heq
        rw [hbody, List.cons.injEq] at heq
        exact ne_of_class hc hsign heq.1
      split
      · next heq => exact absurd heq (hsign '+' _ rfl)
      · next heq => exact absurd heq (hsign '-' _ rfl)
      · simp only [hinf, hinfinity, hnan, hunsigned]
        rfl

/-! ## Infinity -/

theorem toNat_unpackExponent (bits : BitVec Format.binary64.numBits) :
    (UnpackedFloat.unpackExponent bits).toNat =
      bits.toNat / powerOfTwo 52 % powerOfTwo 11 := by
  unfold UnpackedFloat.unpackExponent
  rw [BitVec.toNat_cast, BitVec.extractLsb_toNat, Nat.shiftRight_eq_div_pow]
  rfl

theorem biased_of_unpack_infinity {bits : BitVec Format.binary64.numBits}
    {sign : UnpackedFloat.Sign}
    (h : UnpackedFloat.unpack Format.binary64 bits = .infinity sign) :
    bits.toNat / powerOfTwo 52 % powerOfTwo 11 = powerOfTwo 11 - 1 := by
  have hexponent : UnpackedFloat.unpackExponent bits = -1#_ := by
    by_contra hexponent
    unfold UnpackedFloat.unpack at h
    rw [if_neg hexponent] at h
    by_cases hsubnormal : UnpackedFloat.unpackExponent bits = 0#_
    · rw [if_pos hsubnormal] at h
      by_cases hzero : UnpackedFloat.unpackMantissa bits = 0#_
      · rw [dif_pos hzero] at h
        cases h
      · rw [dif_neg hzero] at h
        cases h
    · rw [if_neg hsubnormal] at h
      cases h
  rw [← toNat_unpackExponent, hexponent]
  rfl

theorem not_infinite_of_finite {x : Float} {value : Binary}
    (hx : Double.ofFloat x = .finite value) : (x == 1.0 / 0.0) = false := by
  rw [Bool.eq_false_iff]
  intro heq
  have hinfinity : (1.0 / 0.0 : Float).toModel.unpack = .infinity .positive := rfl
  have hbeq : x.toModel.unpack.beq (1.0 / 0.0 : Float).toModel.unpack = true := heq
  rw [hinfinity] at hbeq
  cases hunpack : x.toModel.unpack with
  | notANumber => rw [hunpack] at hbeq; cases hbeq
  | zero sign => rw [hunpack] at hbeq; cases hbeq
  | finite sign mantissa exponent hpos => rw [hunpack] at hbeq; cases hbeq
  | infinity sign =>
      have hbiased : x.toBits.toNat / powerOfTwo 52 % powerOfTwo 11 = powerOfTwo 11 - 1 :=
        biased_of_unpack_infinity hunpack
      simp only [Double.ofFloat, Double.ofBits, hbiased, beq_self_eq_true, if_true] at hx
      split at hx <;> cases hx

end JavaSurvey.Decimal
