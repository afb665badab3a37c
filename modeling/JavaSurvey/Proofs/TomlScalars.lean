import JavaSurvey.Proofs.PositionalText
import JavaSurvey.Proofs.TomlStrings
import JavaSurvey.Toml.Reader

/-!
# Values read back

What is written as a value at the end of a line is read as that value: strings,
truth values, natural numbers of 63 bits, and doubles. Digits could begin a date
or a time of day, but no dash and no colon follows them. A double is written
without an exponent and read by the same rounding as elsewhere, so it comes back
wherever printing and reading doubles are inverse to each other.

## Main results

* `skipMoment?_of_digits`: digits alone are no date and no time.
* `readsAs_string`, `readsAs_boolean`, `readsAs_natural`: values of each kind.
* `readsAs_float`: doubles, if they read back at all.
-/

namespace JavaSurvey.Toml

/-! ## Dates and times -/

/-- A character with which digits can become a date or a time, or more digits. -/
def continuesMoment (c : Char) : Bool :=
  c.isDigit || c == '-' || c == ':'

/-- A dash or a colon, which part the digits of dates and times. -/
def partsMoment (c : Char) : Bool :=
  c == '-' || c == ':'

theorem partsMoment_of_isDigit {c : Char} (hc : c.isDigit = true) :
    partsMoment c = false := by
  have hdash : c ≠ '-' := ne_of_class hc rfl
  have hcolon : c ≠ ':' := ne_of_class hc rfl
  simp [partsMoment, hdash, hcolon]

section Digits

variable {run rest : List Char} (hrun : ∀ c ∈ run, c.isDigit = true)

include hrun

/-- Digits of a fixed number are taken from the run, so that no date and no time
goes on behind them. -/
theorem stops_of_readFixed? (hrest : Stops continuesMoment rest) {count value : Nat}
    {more : List Char} (hread : readFixed? count (run ++ rest) = some (value, more)) :
    Stops partsMoment more := by
  simp only [readFixed?] at hread
  split at hread
  next hdigits =>
    rw [Bool.and_eq_true, decide_eq_true_eq] at hdigits
    cases hread
    have hle : count ≤ run.length := by
      by_contra hgt
      cases rest with
      | nil =>
          rw [List.append_nil, List.length_take] at hdigits
          omega
      | cons c tail =>
          obtain ⟨extra, hextra⟩ : ∃ extra, count = run.length + (extra + 1) :=
            ⟨count - run.length - 1, by omega⟩
          have hmem : c ∈ (run ++ c :: tail).take count := by
            rw [hextra, List.take_length_add_append, List.take_succ_cons]
            exact List.mem_append_right _ List.mem_cons_self
          have hdigit := List.all_eq_true.mp hdigits.2 c hmem
          have hstop := hrest c tail rfl
          simp [continuesMoment, hdigit] at hstop
    intro c tail heq
    rw [List.drop_append_of_le_length hle] at heq
    cases hdrop : run.drop count with
    | nil =>
        rw [hdrop, List.nil_append] at heq
        have hstop := hrest c tail heq
        simp only [continuesMoment, Bool.or_eq_false_iff] at hstop
        simp [partsMoment, hstop.1.2, hstop.2]
    | cons d kept =>
        rw [hdrop, List.cons_append, List.cons.injEq] at heq
        have hmem : c ∈ run.drop count := by
          rw [hdrop, heq.1]
          exact List.mem_cons_self
        exact partsMoment_of_isDigit (hrun c (List.mem_of_mem_drop hmem))
  next => cases hread

/-- Digits that no dash and no colon follows are no date and no time. -/
theorem skipMoment?_of_digits (hrest : Stops continuesMoment rest) :
    skipMoment? (run ++ rest) = none := by
  have hdate : skipDate? (run ++ rest) = none := by
    unfold skipDate?
    cases hread : readFixed? 4 (run ++ rest) with
    | none => rfl
    | some found =>
        have hstop := stops_of_readFixed? hrun hrest hread
        simp only [Option.bind_eq_bind, Option.bind_some]
        split
        next more heq => exact absurd heq (hstop.ne_cons rfl more)
        next => rfl
  have hclock : skipClock? (run ++ rest) = none := by
    unfold skipClock?
    cases hread : readFixed? 2 (run ++ rest) with
    | none => rfl
    | some found =>
        have hstop := stops_of_readFixed? hrun hrest hread
        simp only [Option.bind_eq_bind, Option.bind_some]
        split
        next more heq => exact absurd heq (hstop.ne_cons rfl more)
        next => rfl
  have htime : skipTime? (run ++ rest) = none := by
    rw [skipTime?, hclock]
    rfl
  rw [skipMoment?, hdate]
  exact htime

end Digits

/-- A date and a time begin with a digit. -/
theorem skipMoment?_of_head {c : Char} (hc : c.isDigit = false) (tail : List Char) :
    skipMoment? (c :: tail) = none := by
  have hread : ∀ count, readFixed? (count + 1) (c :: tail) = none := by
    intro count
    simp [readFixed?, hc]
  have hdate : skipDate? (c :: tail) = none := by
    rw [skipDate?, hread 3]
    rfl
  have htime : skipTime? (c :: tail) = none := by
    rw [skipTime?, skipClock?, hread 1]
    rfl
  rw [skipMoment?, hdate]
  exact htime

/-! ## Numbers -/

theorem isAlpha_of_isDigit {c : Char} (hc : c.isDigit = true) : c.isAlpha = false := by
  simp only [Char.isDigit, Bool.and_eq_true, decide_eq_true_eq, UInt32.le_iff_toNat_le,
    ge_iff_le] at hc
  have hnine : '9'.val.toNat = 57 := rfl
  have hA : 'A'.val.toNat = 65 := rfl
  have ha : 'a'.val.toNat = 97 := rfl
  show (decide (c.val ≥ 'A'.val ∧ c.val ≤ 'Z'.val) ||
    (decide (c.val ≥ 'a'.val) && decide (c.val ≤ 'z'.val))) = false
  simp only [Bool.or_eq_false_iff, decide_eq_false_iff_not, Bool.and_eq_false_iff,
    UInt32.le_iff_toNat_le, ge_iff_le]
  omega

/-- Digits without underscores are grouped well. -/
theorem groupsDigits_of_digits {run : List Char} (hrun : ∀ c ∈ run, c.isDigit = true)
    {afterDigit : Bool} (hsome : afterDigit = true ∨ run ≠ []) :
    groupsDigits afterDigit run = true := by
  induction run generalizing afterDigit with
  | nil =>
      rw [groupsDigits]
      exact hsome.resolve_right (by simp)
  | cons c run ih =>
      rw [groupsDigits]
      · exact ih (fun d hd => hrun d (List.mem_cons_of_mem c hd)) (.inl rfl)
      · exact ne_of_class (hrun c List.mem_cons_self) (by decide)

theorem readDigits?_of_digits {run rest : List Char} (hrun : ∀ c ∈ run, c.isDigit = true)
    (hne : run ≠ []) (hrest : Stops (fun c => c.isDigit || c == '_') rest) :
    readDigits? Char.isDigit (run ++ rest) = some (run, rest) := by
  have hspan : (run ++ rest).span (fun c => c.isDigit || c == '_') = (run, rest) :=
    span_of_stops (fun c hc => by simp [hrun c hc]) hrest
  have hkept : run.filter (· != '_') = run := by
    rw [List.filter_eq_self]
    intro c hc
    simpa using ne_of_class (hrun c hc) (by decide)
  simp only [readDigits?, hspan, groupsDigits_of_digits hrun (.inr hne), if_true, hkept]

/-- What a decimal is read from: its sign, and digits that no letter of another base
follows. -/
theorem readNumber?_of_digits (negative : Bool) {run rest : List Char}
    (hrun : ∀ c ∈ run, c.isDigit = true) (hne : run ≠ [])
    (hrest : Stops Char.isAlpha rest) :
    readNumber? (Decimal.signText negative ++ (run ++ rest)) =
      readDecimal? negative (run ++ rest) := by
  obtain ⟨c, tail, heq⟩ := List.exists_cons_of_ne_nil hne
  have hc : c.isDigit = true := hrun c (by rw [heq]; exact List.mem_cons_self)
  have hbody : run ++ rest = c :: (tail ++ rest) := by
    rw [heq, List.cons_append]
  have hsecond : Stops Char.isAlpha (tail ++ rest) := by
    cases tail with
    | nil => exact hrest
    | cons d tail =>
        refine stops_cons (isAlpha_of_isDigit (hrun d ?_)) _
        rw [heq]
        exact List.mem_cons_of_mem c List.mem_cons_self
  have hradix : ∀ letter more, letter.isAlpha = true →
      run ++ rest ≠ '0' :: letter :: more := by
    intro letter more hletter hradix
    rw [hbody, List.cons.injEq] at hradix
    exact hsecond.ne_cons hletter more hradix.2
  have hname : ∀ letter more, letter.isDigit = false → run ++ rest ≠ letter :: more := by
    intro letter more hletter hname
    rw [hbody, List.cons.injEq] at hname
    exact ne_of_class hc hletter hname.1
  have hsplit : splitSign (Decimal.signText negative ++ (run ++ rest)) =
      (negative, negative, run ++ rest) := by
    cases negative with
    | true => rfl
    | false =>
        rw [Decimal.signText, if_neg (by decide), List.nil_append, splitSign]
        · exact fun more => hname '+' more rfl
        · exact fun more => hname '-' more rfl
  rw [readNumber?, hsplit]
  split
  next more heq => exact absurd (congrArg (·.2.2) heq) (hname 'i' _ rfl)
  next more heq => exact absurd (congrArg (·.2.2) heq) (hname 'n' _ rfl)
  next more heq => exact absurd (congrArg (·.2.2) heq) (hradix 'x' _ rfl)
  next more heq => exact absurd (congrArg (·.2.2) heq) (hradix 'o' _ rfl)
  next more heq => exact absurd (congrArg (·.2.2) heq) (hradix 'b' _ rfl)
  next heq =>
    cases heq
    rfl

/-- A zero in front of other digits, which decimals must not have. -/
theorem leading_eq_false {whole : List Char}
    (hleading : 1 < whole.length → whole.head? ≠ some '0') :
    (decide (1 < whole.length) && whole.head? == some '0') = false := by
  by_cases hlength : 1 < whole.length
  · simp [hlength, hleading hlength]
  · simp [hlength]

theorem readFraction?_lineFeed (rest : List Char) :
    readFraction? ('\n' :: rest) = some (none, '\n' :: rest) :=
  rfl

theorem readExponent?_lineFeed (rest : List Char) :
    readExponent? ('\n' :: rest) = some (none, '\n' :: rest) :=
  rfl

theorem readDecimal?_toDigits {n : Nat} (hn : (n : Int) ≤ maxInteger) (rest : List Char) :
    readDecimal? false (Nat.toDigits 10 n ++ '\n' :: rest) =
      some (.integer n, '\n' :: rest) := by
  have hdigits : readDigits? Char.isDigit (Nat.toDigits 10 n ++ '\n' :: rest) =
      some (Nat.toDigits 10 n, '\n' :: rest) :=
    readDigits?_of_digits (fun c hc => isDigit_of_mem_numeral hc) Nat.toDigits_ne_nil
      (stops_cons rfl rest)
  have hleading : 1 < (Nat.toDigits 10 n).length → (Nat.toDigits 10 n).head? ≠ some '0' := by
    intro hlength
    apply head?_toDigits
    intro hzero
    rw [hzero] at hlength
    exact absurd hlength (by decide)
  have hinteger : integer? (n : Int) = some (.integer n) := by
    have hmin : minInteger ≤ (n : Int) := by
      rw [minInteger]
      omega
    simp [integer?, hmin, hn]
  simp only [readDecimal?, hdigits, leading_eq_false hleading, readFraction?_lineFeed,
    readExponent?_lineFeed, Text.digitsValue_toDigits, Option.bind_eq_bind,
    Option.bind_some, Bool.false_eq_true, if_false, hinteger]
  rfl

theorem readDecimal?_pointed {negative : Bool} {whole fraction : List Char}
    (h : Decimal.Pointed whole fraction) {x : Float}
    (hx : Decimal.nearest negative (Text.digitsValue (whole ++ fraction))
      (0 - (fraction.length : Int)) = x) (hfinite : (x == 1.0 / 0.0) = false)
    (rest : List Char) :
    readDecimal? negative (whole ++ '.' :: (fraction ++ '\n' :: rest)) =
      some (.float x, '\n' :: rest) := by
  have hwhole : readDigits? Char.isDigit (whole ++ '.' :: (fraction ++ '\n' :: rest)) =
      some (whole, '.' :: (fraction ++ '\n' :: rest)) :=
    readDigits?_of_digits h.whole_isDigit h.whole_ne_nil (stops_cons rfl _)
  have hfraction : readDigits? Char.isDigit (fraction ++ '\n' :: rest) =
      some (fraction, '\n' :: rest) :=
    readDigits?_of_digits h.fraction_isDigit h.fraction_ne_nil (stops_cons rfl rest)
  have hfloat : float? x = some (.float x) := by
    rw [float?, hfinite]
    rfl
  have hpoint : readFraction? ('.' :: (fraction ++ '\n' :: rest)) =
      some (some fraction, '\n' :: rest) := by
    rw [readFraction?, hfraction]
    rfl
  simp only [readDecimal?, hwhole, leading_eq_false h.leading, hpoint,
    readExponent?_lineFeed, Option.bind_eq_bind, Option.bind_some, Bool.false_eq_true,
    if_false, Option.isNone_some, Bool.false_and, Option.getD_some, Option.getD_none,
    hx, hfloat]

/-! ## Values -/

/-- A text that is read as a value at the end of a line, behind a blank. -/
def ReadsAs (text : String) (value : Value) : Prop :=
  ∀ fuel depth rest,
    readValue? (fuel + 1) depth (skipSpaces (' ' :: (text.toList ++ '\n' :: rest))) =
      some (value, '\n' :: rest)

theorem readsAs_of_readScalar? {text : String} {value : Value} {c : Char}
    {tail : List Char} (htext : text.toList = c :: tail) (hspace : isSpace c = false)
    (hbracket : c ≠ '[') (hbrace : c ≠ '\x7b')
    (hread : ∀ rest, readScalar? (c :: (tail ++ '\n' :: rest)) =
      some (value, '\n' :: rest)) :
    ReadsAs text value := by
  intro fuel depth rest
  have hskip : skipSpaces (' ' :: (text.toList ++ '\n' :: rest)) =
      c :: (tail ++ '\n' :: rest) := by
    rw [htext, List.cons_append, skipSpaces, List.dropWhile_cons_of_pos rfl,
      List.dropWhile_cons_of_neg (by simp [hspace])]
  rw [hskip, readValue?]
  · exact hread rest
  · simp [hbracket]
  · simp [hbrace]

theorem readScalar?_of_number {c : Char} {tail : List Char} (htrue : c ≠ 't')
    (hfalse : c ≠ 'f') (hquote : isQuote c = false)
    (hmoment : skipMoment? (c :: tail) = none) :
    readScalar? (c :: tail) = readNumber? (c :: tail) := by
  simp only [isQuote] at hquote
  rw [readScalar?]
  · rw [hquote, hmoment]
    rfl
  · exact fun _ heq => absurd heq htrue
  · exact fun _ heq => absurd heq hfalse

theorem exists_head_stringText (text : String) :
    ∃ c tail, (stringText text).toList = c :: tail ∧ isQuote c = true := by
  rw [stringText]
  cases Quotes.choose text.toList with
  | basic => exact ⟨'"', _, by simp [Quotes.write]; rfl, rfl⟩
  | literal => exact ⟨'\'', _, by simp [Quotes.write]; rfl, rfl⟩
  | multiBasic => exact ⟨'"', _, by simp [Quotes.write, enclose]; rfl, rfl⟩
  | multiLiteral => exact ⟨'\'', _, by simp [Quotes.write, enclose]; rfl, rfl⟩

/-- Every string. -/
theorem readsAs_string (text : String) : ReadsAs (stringText text) (.string text) := by
  obtain ⟨c, tail, htext, hquote⟩ := exists_head_stringText text
  have hc : ∀ d, isQuote d = false → c ≠ d := fun d => ne_of_class hquote
  have hspace : isSpace c = false := by
    simp [isSpace, hc ' ' rfl, hc '\t' rfl]
  refine readsAs_of_readScalar? htext hspace (hc '[' rfl) (hc '\x7b' rfl) fun rest => ?_
  have hread : readString? (c :: (tail ++ '\n' :: rest)) = some (text, '\n' :: rest) := by
    have hstring : readString? ((stringText text).toList ++ '\n' :: rest) = _ :=
      readString?_stringText (stops_cons rfl rest) text
    rw [htext] at hstring
    exact hstring
  rw [isQuote] at hquote
  rw [readScalar?, hquote, hread]
  · rfl
  · exact fun _ heq => absurd heq (hc 't' rfl)
  · exact fun _ heq => absurd heq (hc 'f' rfl)

theorem readsAs_boolean (value : Bool) : ReadsAs (booleanText value) (.boolean value) := by
  intro fuel depth rest
  cases value <;> rfl

/-- A character that a number can begin with. -/
def beginsNumber (c : Char) : Bool :=
  c.isDigit || c == '-' || c == 'i' || c == 'n'

theorem readsAs_of_readNumber? {text : String} {value : Value} {c : Char}
    {tail : List Char} (htext : text.toList = c :: tail) (hc : beginsNumber c = true)
    (hmoment : ∀ rest, skipMoment? (c :: (tail ++ '\n' :: rest)) = none)
    (hread : ∀ rest, readNumber? (c :: (tail ++ '\n' :: rest)) =
      some (value, '\n' :: rest)) :
    ReadsAs text value := by
  have hne : ∀ d, beginsNumber d = false → c ≠ d := fun d => ne_of_class hc
  have hspace : isSpace c = false := by
    simp [isSpace, hne ' ' rfl, hne '\t' rfl]
  have hquote : isQuote c = false := by
    simp [isQuote, hne '"' rfl, hne '\'' rfl]
  refine readsAs_of_readScalar? htext hspace (hne '[' rfl) (hne '\x7b' rfl) fun rest => ?_
  rw [readScalar?_of_number (hne 't' rfl) (hne 'f' rfl) hquote (hmoment rest), hread]

/-- A number that begins with digits: neither a date nor a time follows from what
stands behind them. -/
theorem readsAs_of_digits {text : String} {value : Value} {run more : List Char}
    (htext : text.toList = run ++ more) (hrun : ∀ c ∈ run, c.isDigit = true)
    (hne : run ≠ []) (hmore : ∀ rest, Stops continuesMoment (more ++ '\n' :: rest))
    (hread : ∀ rest, readNumber? (run ++ (more ++ '\n' :: rest)) =
      some (value, '\n' :: rest)) :
    ReadsAs text value := by
  obtain ⟨c, tail, hhead⟩ := List.exists_cons_of_ne_nil hne
  have hc : c.isDigit = true := hrun c (by rw [hhead]; exact List.mem_cons_self)
  have hbody : ∀ rest, c :: (tail ++ more ++ '\n' :: rest) =
      run ++ (more ++ '\n' :: rest) := by
    intro rest
    rw [hhead, List.cons_append, List.append_assoc]
  have hchars : text.toList = c :: (tail ++ more) := by
    rw [htext, hhead, List.cons_append]
  have hbegins : beginsNumber c = true := by
    simp [beginsNumber, hc]
  refine readsAs_of_readNumber? hchars hbegins (fun rest => ?_) fun rest => ?_
  · rw [hbody]
    exact skipMoment?_of_digits hrun (hmore rest)
  · rw [hbody]
    exact hread rest

/-- Every natural number that is not too large. -/
theorem readsAs_natural {n : Nat} {text : String} (htext : naturalText? n = some text) :
    ReadsAs text (.integer n) := by
  rw [naturalText?] at htext
  split at htext
  next hn =>
    cases htext
    have hchars : (String.ofList (Nat.toDigits 10 n)).toList = Nat.toDigits 10 n ++ [] := by
      rw [String.toList_ofList, List.append_nil]
    have hdigits : ∀ c ∈ Nat.toDigits 10 n, c.isDigit = true :=
      fun c hc => isDigit_of_mem_numeral hc
    refine readsAs_of_digits hchars hdigits Nat.toDigits_ne_nil
      (fun rest => stops_cons rfl rest) fun rest => ?_
    rw [List.nil_append, ← readDecimal?_toDigits hn]
    exact readNumber?_of_digits false hdigits Nat.toDigits_ne_nil (stops_cons rfl rest)
  next => cases htext

/-- A name of a value that is not a number, with or without a sign. -/
theorem readsAs_name {text : String} {x : Float} {c : Char} {tail : List Char}
    (htext : text.toList = c :: tail) (hc : beginsNumber c = true)
    (hdigit : c.isDigit = false)
    (hread : ∀ rest, readNumber? (c :: (tail ++ '\n' :: rest)) =
      some (.float x, '\n' :: rest)) :
    ReadsAs text (.float x) :=
  readsAs_of_readNumber? htext hc (fun _ => skipMoment?_of_head hdigit _) hread

theorem readsAs_float_name {x y : Float} {name : String}
    (hx : Decimal.read? (floatText x) = some x) (htext : floatText x = name)
    (hname : Decimal.read? name = some y) (hreads : ReadsAs name (.float y)) :
    ReadsAs (floatText x) (.float x) := by
  rw [htext, hname, Option.some.injEq] at hx
  rw [htext, ← hx]
  exact hreads

/-- Every double that reads back from what it is printed as. -/
theorem readsAs_float {x : Float} (hx : Decimal.read? (floatText x) = some x) :
    ReadsAs (floatText x) (.float x) := by
  have htext : floatText x = floatLayout.write x := rfl
  cases hdouble : Decimal.Double.ofFloat x with
  | nan =>
      simp only [Decimal.Layout.write, hdouble] at htext
      exact readsAs_float_name hx htext rfl
        (readsAs_name (show _ = 'n' :: ['a', 'n'] from rfl) rfl rfl fun _ => rfl)
  | infinite negative =>
      cases negative with
      | false =>
          simp only [Decimal.Layout.write, hdouble] at htext
          exact readsAs_float_name hx htext rfl
            (readsAs_name (show _ = 'i' :: ['n', 'f'] from rfl) rfl rfl fun _ => rfl)
      | true =>
          simp only [Decimal.Layout.write, hdouble] at htext
          exact readsAs_float_name hx htext rfl
            (readsAs_name (show _ = '-' :: ['i', 'n', 'f'] from rfl) rfl rfl fun _ => rfl)
  | finite value =>
      obtain ⟨whole, fraction, hchars, hpointed⟩ :
          ∃ whole fraction, (floatText x).toList =
            Decimal.signText value.negative ++ (whole ++ '.' :: fraction) ∧
            Decimal.Pointed whole fraction :=
        Decimal.pointed_write (fun _ => rfl) rfl hdouble
      have hfinite := Decimal.not_infinite_of_finite hdouble
      rw [Decimal.read?_of_pointed value.negative hpointed hchars, Option.some.injEq] at hx
      have hnumber : ∀ rest, readNumber? (Decimal.signText value.negative ++
          (whole ++ '.' :: (fraction ++ '\n' :: rest))) = some (.float x, '\n' :: rest) := by
        intro rest
        rw [readNumber?_of_digits value.negative hpointed.whole_isDigit
          hpointed.whole_ne_nil (stops_cons rfl _), readDecimal?_pointed hpointed hx hfinite]
      cases hsign : value.negative with
      | true =>
          rw [hsign] at hchars hnumber
          refine readsAs_name hchars rfl rfl fun rest => ?_
          have hread := hnumber rest
          simpa [Decimal.signText] using hread
      | false =>
          rw [hsign] at hchars hnumber
          have hbody : (floatText x).toList = whole ++ '.' :: fraction := hchars
          exact readsAs_of_digits hbody hpointed.whole_isDigit hpointed.whole_ne_nil
            (fun rest => stops_cons rfl _) hnumber

end JavaSurvey.Toml
