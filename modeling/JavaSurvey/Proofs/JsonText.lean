import JavaSurvey.Json.Reader
import JavaSurvey.Json.Writer
import JavaSurvey.Proofs.Numerals

/-!
# Reading JSON that was written

A value is read back from its text, compact or indented, whatever follows the text.
Strings are read one character at a time, each from its own escape, so that no half
of a pair ever waits. Numbers end where neither a digit nor a point nor an exponent
follows, which is so behind every item and every member.

The layouts differ in the gaps between the parts of a text, which a reader passes
over. So what is read from rows of items and members is said once, for any gaps.

A reader of values takes fuel. The length of the text is enough of it, and one
more for the items of an array or the members of an object, since these take a
separator or a bracket for each value.

## Main results

* `readString_escaped`: a string is read back from its escapes.
* `numeral_of_parts`: which literals are JSON numbers.
* `readAs_array`, `readAs_object`: rows with gaps between their parts.
* `read?_compact`, `read?_pretty`: a value is read back from its whole text.
-/

namespace JavaSurvey.Json

open Text (hexValue?)

/-! ## Strings -/

theorem hexValue?_hexDigit : ∀ n < 16, hexValue? (hexDigit n) = some n := by
  decide

/-- A control character is read back from its code unit. -/
theorem codeUnit?_control {c : Char} (h : c.toNat < 0x20) :
    codeUnit? '0' '0' (hexDigit (c.toNat / 16)) (hexDigit (c.toNat % 16)) =
      some c.toNat := by
  have hhigh := hexValue?_hexDigit (c.toNat / 16) (by omega)
  have hlow := hexValue?_hexDigit (c.toNat % 16) (by omega)
  have hzero : hexValue? '0' = some 0 := by decide
  have hvalue : (0 * 16 + 0) * 256 + c.toNat / 16 * 16 + c.toNat % 16 = c.toNat := by
    omega
  simp only [codeUnit?, hzero, hhigh, hlow, Option.bind_eq_bind, Option.bind_some,
    hvalue]

/-- Characters that were read, none of which is half of a pair. -/
def wholeChars (chars : List Char) : PartialString := ⟨chars, none, false⟩

theorem pushUnit_wholeChars (chars : List Char) {c : Char} (h : c.toNat < 0x20) :
    (wholeChars chars).pushUnit c.toNat = wholeChars (c :: chars) := by
  have htrailing : isTrailing c.toNat = false := by
    simp only [isTrailing, Bool.and_eq_false_iff, decide_eq_false_iff_not]
    omega
  have hleading : isLeading c.toNat = false := by
    simp only [isLeading, Bool.and_eq_false_iff, decide_eq_false_iff_not]
    omega
  rw [PartialString.pushUnit, htrailing, hleading, Char.ofNat_toNat]
  rfl

/-- A character is read back from its escape. -/
theorem readStringFrom_escapeChar (chars : List Char) (c : Char)
    (rest : List Char) :
    readStringFrom (wholeChars chars) (escapeChar c ++ rest) =
      readStringFrom (wholeChars (c :: chars)) rest := by
  by_cases hquote : c = '"'
  · subst hquote
    rfl
  by_cases hbackslash : c = '\\'
  · subst hbackslash
    rfl
  by_cases hbackspace : c = '\x08'
  · subst hbackspace
    rfl
  by_cases hformFeed : c = '\x0c'
  · subst hformFeed
    rfl
  by_cases hlineFeed : c = '\n'
  · subst hlineFeed
    rfl
  by_cases hreturn : c = '\r'
  · subst hreturn
    rfl
  by_cases htab : c = '\t'
  · subst htab
    rfl
  by_cases hcontrol : c.toNat < 0x20
  · have hescape : escapeChar c = ['\\', 'u', '0', '0',
        hexDigit (c.toNat / 16), hexDigit (c.toNat % 16)] := by
      simp [escapeChar, hquote, hbackslash, hbackspace, hformFeed, hlineFeed,
        hreturn, htab, hcontrol]
    rw [hescape]
    show readStringFrom (wholeChars chars) ('\\' :: 'u' :: '0' :: '0' ::
      hexDigit (c.toNat / 16) :: hexDigit (c.toNat % 16) :: rest) = _
    rw [readStringFrom, codeUnit?_control hcontrol]
    show readStringFrom ((wholeChars chars).pushUnit c.toNat) rest = _
    rw [pushUnit_wholeChars chars hcontrol]
  · have hescape : escapeChar c = [c] := by
      simp [escapeChar, hquote, hbackslash, hbackspace, hformFeed, hlineFeed,
        hreturn, htab, hcontrol]
    have hplain : (decide (c.toNat < 0x20) || c == '\\') = false := by
      simp [hcontrol, hbackslash]
    rw [hescape, List.singleton_append, readStringFrom, hplain]
    · rfl
    · exact hquote
    · intro a b d e tail heq
      exact absurd heq hbackslash
    · intro d tail heq
      exact absurd heq hbackslash

theorem readStringFrom_escaped (chars text rest : List Char) :
    readStringFrom (wholeChars chars) (text.flatMap escapeChar ++ '"' :: rest) =
      some (some (String.ofList (chars.reverse ++ text)), rest) := by
  induction text generalizing chars with
  | nil =>
      rw [List.flatMap_nil, List.nil_append, readStringFrom, List.append_nil]
      rfl
  | cons c text ih =>
      rw [List.flatMap_cons, List.append_assoc, readStringFrom_escapeChar, ih,
        List.reverse_cons, List.append_assoc, List.singleton_append]

/-- A string is read back from its escapes. -/
theorem readString_escaped (text : String) (rest : List Char) :
    readString (text.toList.flatMap escapeChar ++ '"' :: rest) =
      some (some text, rest) := by
  have hread := readStringFrom_escaped [] text.toList rest
  rw [List.reverse_nil, List.nil_append, String.ofList_toList] at hread
  exact hread

theorem toList_quote (text : String) :
    (quote text).toList =
      '"' :: (text.toList.flatMap escapeChar ++ ['"']) := by
  simp [quote]

/-! ## Numbers -/

/-- A character with which a number can go on. -/
def continuesNumber (c : Char) : Bool :=
  c.isDigit || c == '.' || c == 'e' || c == 'E'

/-- A literal that is read as a number wherever a number can end. -/
structure Numeral (literal : String) : Prop where
  head : ∃ c tail, literal.toList = c :: tail ∧ (c.isDigit = true ∨ c = '-')
  reads : ∀ rest, Stops continuesNumber rest →
    readNumber (literal.toList ++ rest) = some (.number literal, rest)

theorem stops_isDigit {rest : List Char} (h : Stops continuesNumber rest) :
    Stops Char.isDigit rest := by
  intro c tail heq
  have hstop := h c tail heq
  simp only [continuesNumber, Bool.or_eq_false_iff] at hstop
  exact hstop.1.1.1

/-- Digits are taken whole. -/
theorem readDigits_of_stops {digits rest : List Char}
    (hdigits : ∀ c ∈ digits, c.isDigit = true) (hne : digits ≠ [])
    (h : Stops Char.isDigit rest) : readDigits (digits ++ rest) = some (digits, rest) := by
  have hempty : digits.isEmpty = false := by
    rwa [List.isEmpty_eq_false_iff]
  simp only [readDigits, span_of_stops hdigits h, hempty, Bool.false_eq_true, if_false]

/-- The whole part of a number: digits without a zero in front of others. -/
structure WholePart (whole : List Char) : Prop where
  isDigit : ∀ c ∈ whole, c.isDigit = true
  ne_nil : whole ≠ []
  leading : 1 < whole.length → whole.head? ≠ some '0'

theorem WholePart.readWhole {whole rest : List Char} (h : WholePart whole)
    (hrest : Stops Char.isDigit rest) : readWhole (whole ++ rest) = some (whole, rest) := by
  simp only [Json.readWhole, readDigits_of_stops h.isDigit h.ne_nil hrest,
    Option.bind_eq_bind, Option.bind_some]
  split
  next second more => exact absurd rfl (h.leading (by simp))
  next => rfl

/-- The fraction of a number: nothing, or a point and digits. -/
inductive FractionPart : List Char → Prop where
  | none : FractionPart []
  | point {digits : List Char} (hdigits : ∀ c ∈ digits, c.isDigit = true)
    (hne : digits ≠ []) : FractionPart ('.' :: digits)

/-- The exponent of a number: nothing, or a letter, a sign and digits. -/
inductive ExponentPart : List Char → Prop where
  | none : ExponentPart []
  | signed {sign : Char} {digits : List Char} (hsign : sign = '+' ∨ sign = '-')
    (hdigits : ∀ c ∈ digits, c.isDigit = true) (hne : digits ≠ []) :
    ExponentPart ('e' :: sign :: digits)

/-- A character with which a whole part or a fraction can go on. -/
def continuesFraction (c : Char) : Bool :=
  c.isDigit || c == '.'

theorem ExponentPart.stops {exponent rest : List Char} (h : ExponentPart exponent)
    (hrest : Stops continuesNumber rest) :
    Stops continuesFraction (exponent ++ rest) := by
  cases h with
  | none =>
      intro c tail heq
      have hstop := hrest c tail heq
      simp only [continuesNumber, Bool.or_eq_false_iff] at hstop
      rw [continuesFraction, hstop.1.1.1, hstop.1.1.2]
      rfl
  | signed _ _ _ => exact stops_cons (by decide) _

theorem stops_isDigit_of_fraction {rest : List Char} (h : Stops continuesFraction rest) :
    Stops Char.isDigit rest := by
  intro c tail heq
  exact (Bool.or_eq_false_iff.1 (h c tail heq)).1

theorem FractionPart.stops {fraction rest : List Char} (h : FractionPart fraction)
    (hrest : Stops continuesFraction rest) : Stops Char.isDigit (fraction ++ rest) := by
  cases h with
  | none => exact stops_isDigit_of_fraction hrest
  | point _ _ => exact stops_cons (by decide) _

theorem FractionPart.readFraction {fraction rest : List Char} (h : FractionPart fraction)
    (hrest : Stops continuesFraction rest) :
    readFraction (fraction ++ rest) = some (fraction, rest) := by
  cases h with
  | none =>
      rw [List.nil_append, readFraction.eq_def]
      split
      next tail => exact absurd (hrest '.' tail rfl) (by decide)
      next => rfl
  | point hdigits hne =>
      rw [List.cons_append, Json.readFraction,
        readDigits_of_stops hdigits hne (stops_isDigit_of_fraction hrest)]
      rfl

theorem ExponentPart.readExponent {exponent rest : List Char} (h : ExponentPart exponent)
    (hrest : Stops continuesNumber rest) :
    readExponent (exponent ++ rest) = some (exponent, rest) := by
  cases h with
  | none =>
      cases rest with
      | nil => rfl
      | cons c tail =>
          have hstop := hrest c tail rfl
          simp only [continuesNumber, Bool.or_eq_false_iff] at hstop
          simp [Json.readExponent, hstop.1.2, hstop.2]
  | @signed sign digits hsign hdigits hne =>
      have hread := readDigits_of_stops hdigits hne (stops_isDigit hrest)
      have hmark : (sign == '+' || sign == '-') = true := by
        rcases hsign with rfl | rfl <;> rfl
      rw [List.cons_append, List.cons_append, Json.readExponent]
      simp only [beq_self_eq_true, Bool.true_or, if_true, hmark, hread, Option.bind_eq_bind,
        Option.bind_some]

/-- A number is its parts behind an optional minus. -/
theorem numeral_of_parts {literal : String} {sign whole fraction exponent : List Char}
    (hsign : sign = [] ∨ sign = ['-']) (hwhole : WholePart whole)
    (hfraction : FractionPart fraction) (hexponent : ExponentPart exponent)
    (hliteral : literal.toList = sign ++ (whole ++ (fraction ++ exponent))) :
    Numeral literal := by
  obtain ⟨c, tail, hdigits⟩ := List.exists_cons_of_ne_nil hwhole.ne_nil
  have hc : c.isDigit = true := hwhole.isDigit c (hdigits ▸ List.mem_cons_self)
  have hunsigned : ∀ rest, Stops continuesNumber rest →
      readUnsigned (whole ++ (fraction ++ exponent) ++ rest) =
        some (whole ++ (fraction ++ exponent), rest) := by
    intro rest hrest
    have hstops := hexponent.stops hrest
    simp only [readUnsigned, List.append_assoc, hwhole.readWhole (hfraction.stops hstops),
      hfraction.readFraction hstops, hexponent.readExponent hrest, Option.bind_eq_bind,
      Option.bind_some]
  rcases hsign with rfl | rfl
  · rw [List.nil_append] at hliteral
    refine ⟨⟨c, _, by rw [hliteral, hdigits, List.cons_append], .inl hc⟩, ?_⟩
    intro rest hrest
    rw [hliteral, readNumber.eq_def]
    split
    next left heq =>
      rw [hdigits, List.cons_append, List.cons_append] at heq
      exact absurd (List.cons.inj heq).1 (ne_of_class hc (by decide))
    next =>
      rw [hunsigned rest hrest, ← hliteral, Option.bind_eq_bind, Option.bind_some]
      simp only [String.ofList_toList]
  · rw [List.singleton_append] at hliteral
    refine ⟨⟨'-', _, hliteral, .inr rfl⟩, fun rest hrest => ?_⟩
    rw [hliteral, List.cons_append, readNumber, hunsigned rest hrest, Option.bind_eq_bind,
      Option.bind_some]
    simp only [← hliteral, String.ofList_toList]

theorem numeral_ofNat (n : Nat) : Numeral (String.ofList (Nat.toDigits 10 n)) := by
  have hwhole : WholePart (Nat.toDigits 10 n) := by
    refine ⟨fun c hc => isDigit_of_mem_numeral hc, Nat.toDigits_ne_nil, fun hlength => ?_⟩
    refine head?_toDigits ?_
    rintro rfl
    exact absurd hlength (by decide)
  refine numeral_of_parts (.inl rfl) hwhole .none .none ?_
  rw [String.toList_ofList, List.nil_append, List.nil_append, List.append_nil]

/-! ## Values -/

/-- A value that its text tells: every number in it is one, and nothing in it is
without a value. -/
inductive Value.Readable : Value → Prop where
  | null : Value.Readable .null
  | bool (value : Bool) : Value.Readable (.bool value)
  | number {literal : String} (h : Numeral literal) : Value.Readable (.number literal)
  | string (text : String) : Value.Readable (.string text)
  | array {items : List Value} (h : ∀ item ∈ items, item.Readable) :
    Value.Readable (.array items)
  | object {members : List (String × Value)}
    (h : ∀ member ∈ members, member.2.Readable) : Value.Readable (.object members)

/-! ## Blanks -/

/-- Blanks between the parts of a text. -/
def Gap (gap : List Char) : Prop :=
  ∀ c ∈ gap, isBlank c = true

theorem gap_nil : Gap [] := by
  intro c hc
  cases hc

theorem skipBlanks_cons {c : Char} (h : isBlank c = false) (rest : List Char) :
    skipBlanks (c :: rest) = c :: rest := by
  rw [skipBlanks, List.dropWhile_cons_of_neg (by simp [h])]

/-- A gap is passed over. -/
theorem skipBlanks_gap {gap : List Char} (h : Gap gap) {c : Char}
    (hc : isBlank c = false) (rest : List Char) :
    skipBlanks (gap ++ c :: rest) = c :: rest := by
  rw [skipBlanks, List.dropWhile_append_of_pos h]
  exact skipBlanks_cons hc rest

/-- A number ends at a gap. -/
theorem stops_gap {gap rest : List Char} (h : Gap gap)
    (hrest : Stops continuesNumber rest) : Stops continuesNumber (gap ++ rest) := by
  cases gap with
  | nil => exact hrest
  | cons c gap =>
      apply stops_cons
      have hc := h c List.mem_cons_self
      simp only [isBlank, Bool.or_eq_true, beq_iff_eq] at hc
      rcases hc with ((rfl | rfl) | rfl) | rfl <;> decide

theorem stops_closing {c : Char} (h : c = ',' ∨ c = ']' ∨ c = '}')
    (rest : List Char) : Stops continuesNumber (c :: rest) := by
  apply stops_cons
  rcases h with rfl | rfl | rfl <;> decide

/-! ## Texts of values -/

/-- A text from which a value is read, whatever ends the text. -/
structure ReadAs (value : Value) (text : List Char) : Prop where
  /-- The text starts with a character that is neither a blank nor the end of an
  array. -/
  head : ∃ c tail, text = c :: tail ∧ isBlank c = false ∧ c ≠ ']'
  reads : ∀ fuel rest, text.length ≤ fuel → Stops continuesNumber rest →
    readValue fuel (text ++ rest) = some (value, rest)

/-- A text is not empty, so some fuel is there to read it. -/
theorem readAs_of_succ {value : Value} {c : Char} {tail : List Char}
    (hblank : isBlank c = false) (hc : c ≠ ']')
    (h : ∀ fuel rest, tail.length ≤ fuel → Stops continuesNumber rest →
      readValue (fuel + 1) (c :: tail ++ rest) = some (value, rest)) :
    ReadAs value (c :: tail) := by
  refine ⟨⟨c, tail, rfl, hblank, hc⟩, fun fuel rest hfuel hrest => ?_⟩
  rw [List.length_cons] at hfuel
  obtain ⟨fuel, rfl⟩ : ∃ more, fuel = more + 1 := ⟨fuel - 1, by omega⟩
  exact h fuel rest (Nat.le_of_succ_le_succ hfuel) hrest

/-- What the first character of a number is not. -/
theorem head_of_numeral {c d : Char} (h : c.isDigit = true ∨ c = '-')
    (hdigit : d.isDigit = false) (hminus : '-' ≠ d) : c ≠ d := by
  rcases h with hc | rfl
  · exact ne_of_class hc hdigit
  · exact hminus

theorem readAs_null : ReadAs .null "null".toList :=
  readAs_of_succ (by decide) (by decide) fun _ _ _ _ => rfl

theorem readAs_bool (value : Bool) :
    ReadAs (.bool value) (Value.bool value).writeScalar.toList := by
  cases value <;> exact readAs_of_succ (by decide) (by decide) fun _ _ _ _ => rfl

theorem readAs_number {literal : String} (h : Numeral literal) :
    ReadAs (.number literal) literal.toList := by
  obtain ⟨c, tail, hliteral, hc⟩ := h.head
  have hblank : isBlank c = false := by
    simp [isBlank, head_of_numeral hc]
  have hreads := h.reads
  rw [hliteral] at hreads ⊢
  refine readAs_of_succ hblank (head_of_numeral hc (by decide) (by decide)) ?_
  intro fuel rest _ hrest
  rw [← hreads rest hrest, List.cons_append, readValue]
  all_goals
    intro other heq
    exact head_of_numeral hc (by decide) (by decide) (List.cons.inj heq).1

theorem readAs_string (text : String) : ReadAs (.string text) (quote text).toList := by
  rw [toList_quote]
  refine readAs_of_succ (by decide) (by decide) fun fuel rest _ _ => ?_
  rw [List.cons_append, List.append_assoc, List.singleton_append, readValue,
    readString_escaped]
  rfl

/-! ## Arrays -/

/-- The text of items with commas between, and gaps behind the commas. -/
inductive ItemsText : List Value → List Char → Prop where
  | last {item : Value} {text : List Char} (h : ReadAs item text) : ItemsText [item] text
  | next {item : Value} {items : List Value} {text gap row : List Char}
    (h : ReadAs item text) (hgap : Gap gap) (hrow : ItemsText items row) :
    ItemsText (item :: items) (text ++ ',' :: (gap ++ row))

/-- The text of items starts with that of the first. -/
theorem ItemsText.head {items : List Value} {row : List Char} (h : ItemsText items row) :
    ∃ c tail, row = c :: tail ∧ isBlank c = false ∧ c ≠ ']' := by
  cases h with
  | last h => exact h.head
  | next h _ _ =>
      obtain ⟨c, tail, rfl, hc⟩ := h.head
      exact ⟨c, _, rfl, hc⟩

section Rows

variable {fuel : Nat} {text left rest after : List Char} {item : Value}

/-- Behind the last item the array ends. -/
theorem readItems_last (h : readValue fuel text = some (item, left))
    (hleft : skipBlanks left = ']' :: rest) :
    readItems (fuel + 1) text = some ([item], rest) := by
  rw [readItems, h, Option.bind_eq_bind, Option.bind_some]
  simp only [hleft]

/-- Behind any other item stand a comma and the items that follow. -/
theorem readItems_next {items : List Value}
    (h : readValue fuel text = some (item, ',' :: rest))
    (hnext : readItems fuel (skipBlanks rest) = some (items, after)) :
    readItems (fuel + 1) text = some (item :: items, after) := by
  rw [readItems, h]
  show (readItems fuel (skipBlanks rest)).bind _ = _
  rw [hnext]
  rfl

end Rows

/-- Items are read from their text. -/
theorem ItemsText.readItems {items : List Value} {row : List Char}
    (h : ItemsText items row) {gap : List Char} (hgap : Gap gap) (rest : List Char)
    {fuel : Nat} (hfuel : row.length + 1 ≤ fuel) :
    readItems fuel (row ++ (gap ++ ']' :: rest)) = some (items, rest) := by
  obtain ⟨fuel, rfl⟩ : ∃ more, fuel = more + 1 := ⟨fuel - 1, by omega⟩
  induction h generalizing fuel with
  | last h =>
      have hstops := stops_gap hgap (stops_closing (.inr (.inl rfl)) rest)
      exact readItems_last (h.reads fuel _ (by omega) hstops)
        (skipBlanks_gap hgap (by decide) rest)
  | next h hbetween hrow ih =>
      simp only [List.length_append, List.length_cons] at hfuel
      obtain ⟨fuel, rfl⟩ : ∃ more, fuel = more + 1 := ⟨fuel - 1, by omega⟩
      obtain ⟨c, tail, htext, hblank, _⟩ := hrow.head
      rw [List.append_assoc, List.cons_append]
      apply readItems_next (h.reads _ _ (by omega) (stops_closing (.inl rfl) _))
      have hnext := ih fuel (by omega)
      rw [htext, List.cons_append] at hnext
      rw [List.append_assoc, htext, List.cons_append, skipBlanks_gap hbetween hblank]
      exact hnext

theorem readAs_emptyArray : ReadAs (.array []) ['[', ']'] :=
  readAs_of_succ (by decide) (by decide) fun _ _ _ _ => rfl

/-- An array is read from its items between brackets. -/
theorem readAs_array {items : List Value} {front row back : List Char}
    (h : ItemsText items row) (hfront : Gap front) (hback : Gap back) :
    ReadAs (.array items) ('[' :: (front ++ (row ++ (back ++ [']'])))) := by
  refine readAs_of_succ (by decide) (by decide) fun fuel rest hfuel _ => ?_
  simp only [List.length_append, List.length_cons, List.length_nil] at hfuel
  have hitems := h.readItems hback rest (show row.length + 1 ≤ fuel by omega)
  obtain ⟨c, tail, htext, hblank, hc⟩ := h.head
  rw [htext, List.cons_append] at hitems
  simp only [List.cons_append, List.append_assoc, List.nil_append]
  rw [htext, List.cons_append, readValue, skipBlanks_gap hfront hblank]
  split
  next other heq => exact absurd (List.cons.inj heq).1 hc
  next => rw [hitems]; rfl

/-! ## Objects -/

/-- The text of members with commas between, and gaps behind colons and commas. -/
inductive MembersText : List (String × Value) → List Char → Prop where
  | last (key : String) {value : Value} {space text : List Char} (h : ReadAs value text)
    (hspace : Gap space) :
    MembersText [(key, value)] ((quote key).toList ++ ':' :: (space ++ text))
  | next (key : String) {value : Value} {members : List (String × Value)}
    {space text gap row : List Char} (h : ReadAs value text) (hspace : Gap space)
    (hgap : Gap gap) (hrow : MembersText members row) :
    MembersText ((key, value) :: members)
      ((quote key).toList ++ ':' :: (space ++ (text ++ ',' :: (gap ++ row))))

/-- The text of members starts with the quote of the first key. -/
theorem MembersText.head {members : List (String × Value)} {row : List Char}
    (h : MembersText members row) : ∃ tail, row = '"' :: tail := by
  cases h with
  | last key _ _ =>
      rw [toList_quote]
      exact ⟨_, rfl⟩
  | next key _ _ _ _ =>
      rw [toList_quote]
      exact ⟨_, rfl⟩

/-- A member whose key is a text. -/
def textMember (member : String × Value) : Option String × Value :=
  (some member.1, member.2)

/-- Members whose keys are texts make an object. -/
theorem objectOf_map_textMember (members : List (String × Value)) :
    objectOf (members.map textMember) = .object members := by
  have hkeys : (members.map textMember).mapM
      (fun member => member.1.map fun key => (key, member.2)) = some members := by
    rw [List.mapM_map]
    induction members with
    | nil => rfl
    | cons member members ih =>
        rw [List.mapM_cons, ih]
        rfl
  rw [objectOf]
  split
  next found hfound => rw [Option.some.inj (hfound.symm.trans hkeys)]
  next hnone => cases hnone.symm.trans hkeys

section Rows

variable {key : String} {value : Value} {space text left rest after : List Char} {fuel : Nat}
  (hvalue : ReadAs value text) (hspace : Gap space) (hfuel : text.length ≤ fuel)

include hvalue hspace hfuel

/-- Behind the last member the object ends. -/
theorem readMembers_last (hstops : Stops continuesNumber left)
    (hleft : skipBlanks left = '}' :: rest) :
    readMembers (fuel + 1) ((quote key).toList ++ ':' :: (space ++ (text ++ left))) =
      some ([(some key, value)], rest) := by
  obtain ⟨c, tail, htext, hblank, _⟩ := hvalue.head
  have hread := hvalue.reads fuel left hfuel hstops
  rw [htext, List.cons_append] at hread ⊢
  rw [toList_quote, List.cons_append, List.append_assoc, List.singleton_append,
    readMembers, readString_escaped]
  show (readValue fuel (skipBlanks (space ++ c :: (tail ++ left)))).bind _ = _
  rw [skipBlanks_gap hspace hblank, hread, Option.bind_some]
  simp only [hleft]

/-- Behind any other member stand a comma and the members that follow. -/
theorem readMembers_next {members : List (Option String × Value)}
    (hnext : readMembers fuel (skipBlanks rest) = some (members, after)) :
    readMembers (fuel + 1)
        ((quote key).toList ++ ':' :: (space ++ (text ++ ',' :: rest))) =
      some ((some key, value) :: members, after) := by
  obtain ⟨c, tail, htext, hblank, _⟩ := hvalue.head
  have hread := hvalue.reads fuel (',' :: rest) hfuel (stops_closing (.inl rfl) rest)
  rw [htext, List.cons_append] at hread ⊢
  rw [toList_quote, List.cons_append, List.append_assoc, List.singleton_append,
    readMembers, readString_escaped]
  show (readValue fuel (skipBlanks (space ++ c :: (tail ++ ',' :: rest)))).bind _ = _
  rw [skipBlanks_gap hspace hblank, hread]
  show (readMembers fuel (skipBlanks rest)).bind _ = _
  rw [hnext]
  rfl

end Rows

/-- Members are read from their text. -/
theorem MembersText.readMembers {members : List (String × Value)} {row : List Char}
    (h : MembersText members row) {gap : List Char} (hgap : Gap gap) (rest : List Char)
    {fuel : Nat} (hfuel : row.length + 1 ≤ fuel) :
    readMembers fuel (row ++ (gap ++ '}' :: rest)) =
      some (members.map textMember, rest) := by
  obtain ⟨fuel, rfl⟩ : ∃ more, fuel = more + 1 := ⟨fuel - 1, by omega⟩
  induction h generalizing fuel with
  | last key h hspace =>
      simp only [List.length_append, List.length_cons] at hfuel
      have hstops := stops_gap hgap (stops_closing (.inr (.inr rfl)) rest)
      rw [List.append_assoc, List.cons_append, List.append_assoc]
      exact readMembers_last h hspace (by omega) hstops
        (skipBlanks_gap hgap (by decide) rest)
  | next key h hspace hbetween hrow ih =>
      simp only [List.length_append, List.length_cons] at hfuel
      obtain ⟨fuel, rfl⟩ : ∃ more, fuel = more + 1 := ⟨fuel - 1, by omega⟩
      obtain ⟨tail, htext⟩ := hrow.head
      have hnext := ih fuel (by omega)
      rw [htext, List.cons_append] at hnext
      rw [← skipBlanks_gap hbetween (by decide)] at hnext
      simp only [List.append_assoc, List.cons_append]
      rw [htext, List.cons_append]
      exact readMembers_next h hspace (by omega) hnext

theorem readAs_emptyObject : ReadAs (.object []) ['{', '}'] :=
  readAs_of_succ (by decide) (by decide) fun _ _ _ _ => rfl

/-- An object is read from its members between braces. -/
theorem readAs_object {members : List (String × Value)} {front row back : List Char}
    (h : MembersText members row) (hfront : Gap front) (hback : Gap back) :
    ReadAs (.object members) ('{' :: (front ++ (row ++ (back ++ ['}'])))) := by
  refine readAs_of_succ (by decide) (by decide) fun fuel rest hfuel _ => ?_
  simp only [List.length_append, List.length_cons, List.length_nil] at hfuel
  have hmembers := h.readMembers hback rest (show row.length + 1 ≤ fuel by omega)
  obtain ⟨tail, htext⟩ := h.head
  rw [htext, List.cons_append] at hmembers
  simp only [List.cons_append, List.append_assoc, List.nil_append]
  rw [htext, List.cons_append, readValue, skipBlanks_gap hfront (by decide)]
  split
  next other heq => cases heq
  next =>
    rw [hmembers, Option.bind_eq_bind, Option.bind_some]
    simp only [objectOf_map_textMember]

/-- A whole text. -/
theorem read?_of_readAs {value : Value} {text : String} (h : ReadAs value text.toList) :
    read? text = some value := by
  have hread := h.reads (text.toList.length + 1) [] (Nat.le_succ _) (stops_nil _)
  obtain ⟨c, tail, htext, hblank, _⟩ := h.head
  have hskip : skipBlanks text.toList = text.toList := by
    rw [htext, skipBlanks_cons hblank]
  rw [List.append_nil] at hread
  rw [read?]
  simp only [hskip, hread, Option.bind_eq_bind, Option.bind_some]
  rfl

/-! ## Compact texts -/

theorem toList_compact_array (items : List Value) :
    (Value.array items).compact.toList =
      '[' :: ((Value.compactItems items).toList ++ [']']) := by
  rw [Value.compact, String.toList_append, String.toList_append]
  rfl

theorem toList_compact_object (members : List (String × Value)) :
    (Value.object members).compact.toList =
      '{' :: ((Value.compactMembers members).toList ++ ['}']) := by
  rw [Value.compact, String.toList_append, String.toList_append]
  rfl

theorem toList_compactItems_cons (item next : Value) (items : List Value) :
    (Value.compactItems (item :: next :: items)).toList =
      item.compact.toList ++ ',' :: (Value.compactItems (next :: items)).toList := by
  rw [Value.compactItems, String.toList_append, String.toList_append,
    List.append_assoc]
  · rfl
  · intro heq
    cases heq

theorem toList_compactMembers_singleton (key : String) (value : Value) :
    (Value.compactMembers [(key, value)]).toList =
      (quote key).toList ++ ':' :: value.compact.toList := by
  rw [Value.compactMembers, String.toList_append, String.toList_append,
    List.append_assoc]
  rfl

theorem toList_compactMembers_cons (key : String) (value : Value)
    (next : String × Value) (members : List (String × Value)) :
    (Value.compactMembers ((key, value) :: next :: members)).toList =
      (quote key).toList ++ ':' :: (value.compact.toList ++
        ',' :: (Value.compactMembers (next :: members)).toList) := by
  rw [Value.compactMembers, String.toList_append, String.toList_append,
    String.toList_append, String.toList_append, List.append_assoc,
    List.append_assoc, List.append_assoc]
  · rfl
  · intro heq
    cases heq

theorem itemsText_compactItems {items : List Value} (hne : items ≠ [])
    (h : ∀ item ∈ items, ReadAs item item.compact.toList) :
    ItemsText items (Value.compactItems items).toList := by
  induction items with
  | nil => exact absurd rfl hne
  | cons item items ih =>
      rw [List.forall_mem_cons] at h
      cases items with
      | nil =>
          rw [Value.compactItems]
          exact .last h.1
      | cons next items =>
          have hnext := ItemsText.next h.1 gap_nil (ih (List.cons_ne_nil _ _) h.2)
          rw [toList_compactItems_cons]
          exact hnext

theorem membersText_compactMembers {members : List (String × Value)} (hne : members ≠ [])
    (h : ∀ member ∈ members, ReadAs member.2 member.2.compact.toList) :
    MembersText members (Value.compactMembers members).toList := by
  induction members with
  | nil => exact absurd rfl hne
  | cons member members ih =>
      obtain ⟨key, value⟩ := member
      rw [List.forall_mem_cons] at h
      cases members with
      | nil =>
          have hlast := MembersText.last key h.1 gap_nil
          rw [toList_compactMembers_singleton]
          exact hlast
      | cons next members =>
          have hnext :=
            MembersText.next key h.1 gap_nil gap_nil (ih (List.cons_ne_nil _ _) h.2)
          rw [toList_compactMembers_cons]
          exact hnext

/-- A value is read back from its compact text. -/
theorem readAs_compact {value : Value} (h : value.Readable) :
    ReadAs value value.compact.toList := by
  induction h with
  | null => exact readAs_null
  | bool value => exact readAs_bool value
  | number h => exact readAs_number h
  | string text => exact readAs_string text
  | @array items h ih =>
      rw [toList_compact_array]
      cases items with
      | nil => exact readAs_emptyArray
      | cons item items =>
          exact readAs_array (itemsText_compactItems (List.cons_ne_nil _ _) ih) gap_nil
            gap_nil
  | @object members h ih =>
      rw [toList_compact_object]
      cases members with
      | nil => exact readAs_emptyObject
      | cons member members =>
          exact readAs_object (membersText_compactMembers (List.cons_ne_nil _ _) ih)
            gap_nil gap_nil

/-- A whole compact text. -/
theorem read?_compact {value : Value} (h : value.Readable) :
    read? value.compact = some value :=
  read?_of_readAs (readAs_compact h)

/-! ## Indented texts -/

theorem gap_indentation (level : Nat) : Gap (indentation level).toList := by
  intro c hc
  rw [indentation, String.toList_append, List.mem_append] at hc
  rcases hc with hbreak | hblanks
  · rw [List.mem_singleton.1 hbreak]
    rfl
  · rw [String.toList_ofList] at hblanks
    rw [List.eq_of_mem_replicate hblanks]
    rfl

theorem itemsText_indentedItems {level : Nat} {items : List Value} (hne : items ≠ [])
    (h : ∀ item ∈ items, ReadAs item (item.indented level).toList) :
    ∃ row, (Value.indentedItems level items).toList = (indentation level).toList ++ row ∧
      ItemsText items row := by
  induction items with
  | nil => exact absurd rfl hne
  | cons item items ih =>
      rw [List.forall_mem_cons] at h
      cases items with
      | nil =>
          refine ⟨_, ?_, .last h.1⟩
          rw [Value.indentedItems, String.toList_append]
      | cons next items =>
          obtain ⟨row, htext, hrow⟩ := ih (List.cons_ne_nil _ _) h.2
          refine ⟨_, ?_, .next h.1 (gap_indentation level) hrow⟩
          rw [Value.indentedItems, String.toList_append, String.toList_append,
            String.toList_append, htext, List.append_assoc, List.append_assoc]
          · rfl
          · intro heq
            cases heq

theorem membersText_indentedMembers {level : Nat} {members : List (String × Value)}
    (hne : members ≠ [])
    (h : ∀ member ∈ members, ReadAs member.2 (member.2.indented level).toList) :
    ∃ row, (Value.indentedMembers level members).toList =
        (indentation level).toList ++ row ∧ MembersText members row := by
  have hspace : Gap [' '] := by
    intro c hc
    rw [List.mem_singleton.1 hc]
    rfl
  induction members with
  | nil => exact absurd rfl hne
  | cons member members ih =>
      obtain ⟨key, value⟩ := member
      rw [List.forall_mem_cons] at h
      cases members with
      | nil =>
          refine ⟨_, ?_, .last key h.1 hspace⟩
          rw [Value.indentedMembers, String.toList_append, String.toList_append,
            String.toList_append, List.append_assoc, List.append_assoc]
          rfl
      | cons next members =>
          obtain ⟨row, htext, hrow⟩ := ih (List.cons_ne_nil _ _) h.2
          refine ⟨_, ?_, .next key h.1 hspace (gap_indentation level) hrow⟩
          rw [Value.indentedMembers, String.toList_append, String.toList_append,
            String.toList_append, String.toList_append, String.toList_append, htext]
          · simp only [List.append_assoc]
            rfl
          · intro heq
            cases heq

/-- A value is read back from its indented text. -/
theorem readAs_indented {value : Value} (h : value.Readable) (level : Nat) :
    ReadAs value (value.indented level).toList := by
  induction h generalizing level with
  | null =>
      simp only [Value.indented]
      exact readAs_null
  | bool value =>
      simp only [Value.indented]
      exact readAs_bool value
  | number h =>
      simp only [Value.indented]
      exact readAs_number h
  | string text =>
      simp only [Value.indented]
      exact readAs_string text
  | @array items h ih =>
      cases items with
      | nil =>
          rw [Value.indented]
          exact readAs_emptyArray
      | cons item items =>
          obtain ⟨row, htext, hrow⟩ := itemsText_indentedItems (List.cons_ne_nil _ _)
            fun other hother => ih other hother (level + 1)
          have harray := readAs_array hrow (gap_indentation (level + 1))
            (gap_indentation level)
          rw [Value.indented, String.toList_append, String.toList_append,
            String.toList_append, htext, List.append_assoc, List.append_assoc,
            List.append_assoc]
          exact harray
  | @object members h ih =>
      cases members with
      | nil =>
          rw [Value.indented]
          exact readAs_emptyObject
      | cons member members =>
          obtain ⟨row, htext, hrow⟩ := membersText_indentedMembers (List.cons_ne_nil _ _)
            fun other hother => ih other hother (level + 1)
          have hobject := readAs_object hrow (gap_indentation (level + 1))
            (gap_indentation level)
          rw [Value.indented, String.toList_append, String.toList_append,
            String.toList_append, htext, List.append_assoc, List.append_assoc,
            List.append_assoc]
          exact hobject

/-- A whole indented text. -/
theorem read?_pretty {value : Value} (h : value.Readable) :
    read? value.pretty = some value :=
  read?_of_readAs (readAs_indented h 0)

end JavaSurvey.Json
