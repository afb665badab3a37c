import JavaSurvey.Proofs.Numerals
import JavaSurvey.Toml.Strings
import JavaSurvey.Toml.Writer

/-!
# Strings read back

A string is written in one of four kinds of quotes. Double quotes can hold every
text, single quotes only texts without quotes and controls, and three quotes hold
up to two quotes in a row as they are: a text that ends in quotes runs into those
that close it, and the reader sorts out four or five of them. Whatever kind is
chosen for a text, the reader gives the text back.

## Main results

* `escapeChar_cases`: what a character between double quotes can become.
* `readBasic_escape`, `readMultiBasic_escape`: every text between double quotes.
* `readLiteral_text`, `readMultiLiteral_text`: plain texts between single quotes.
* `readString?_stringText`: the text in the quotes chosen for it.
-/

namespace JavaSurvey.Toml

/-! ## Characters between double quotes -/

/-- A control character is read back from its code point. -/
theorem codePoint?_control {c : Char} (hcontrol : isControl c = true) :
    codePoint? ['0', '0', hexDigit (c.toNat / 16), hexDigit (c.toNat % 16)] =
      some c := by
  have hsmall : c.toNat < 128 := by
    simp only [isControl, Bool.and_eq_true, Bool.or_eq_true, decide_eq_true_eq,
      beq_iff_eq] at hcontrol
    omega
  have hdigits : ∀ n < 128,
      hexNumber? 0 ['0', '0', hexDigit (n / 16), hexDigit (n % 16)] = some n := by
    decide
  have hvalid : c.toNat.isValidChar := c.valid
  simp only [codePoint?, hdigits c.toNat hsmall, hvalid, if_true, Char.ofNat_toNat]

/-- What a character other than a quote becomes between double quotes: a letter
behind a backslash, its code point, or itself. -/
theorem escapeChar_cases (lines : Bool) {c : Char} (hquote : c ≠ '"') :
    (∃ letter, escapeChar lines c = ['\\', letter] ∧
      simpleEscape? letter = some c ∧ letter ≠ 'u' ∧ letter ≠ 'U') ∨
    (escapeChar lines c = codePointEscape c ∧ isControl c = true) ∨
    (escapeChar lines c = [c] ∧ c ≠ '\\' ∧ c ≠ '\r' ∧
      (c = '\n' ∧ lines = true ∨ c ≠ '\n' ∧ isControl c = false)) := by
  by_cases hbackspace : c = '\x08'
  · subst hbackspace
    exact .inl ⟨'b', rfl, rfl, by decide, by decide⟩
  by_cases htab : c = '\t'
  · subst htab
    exact .inl ⟨'t', rfl, rfl, by decide, by decide⟩
  by_cases hlineFeed : c = '\n'
  · subst hlineFeed
    cases lines with
    | false => exact .inl ⟨'n', rfl, rfl, by decide, by decide⟩
    | true => exact .inr (.inr ⟨rfl, by decide, by decide, .inl ⟨rfl, rfl⟩⟩)
  by_cases hformFeed : c = '\x0c'
  · subst hformFeed
    exact .inl ⟨'f', rfl, rfl, by decide, by decide⟩
  by_cases hreturn : c = '\r'
  · subst hreturn
    exact .inl ⟨'r', rfl, rfl, by decide, by decide⟩
  by_cases hbackslash : c = '\\'
  · subst hbackslash
    exact .inl ⟨'\\', rfl, rfl, by decide, by decide⟩
  right
  by_cases hcontrol : isControl c = true
  · left
    refine ⟨?_, hcontrol⟩
    simp [escapeChar, hbackspace, htab, hlineFeed, hformFeed, hreturn, hbackslash,
      hcontrol]
  · right
    rw [Bool.not_eq_true] at hcontrol
    refine ⟨?_, hbackslash, hreturn, .inr ⟨hlineFeed, hcontrol⟩⟩
    simp [escapeChar, hbackspace, htab, hlineFeed, hformFeed, hreturn, hbackslash,
      hcontrol]

/-- No escape begins with a quote, or with an end of line that is not the
character itself. -/
theorem exists_head_escapeChar (lines : Bool) {c : Char} (hquote : c ≠ '"') :
    ∃ first more, escapeChar lines c = first :: more ∧ first ≠ '"' ∧ first ≠ '\r' ∧
      (first = '\n' → c = '\n') := by
  obtain ⟨letter, hescape, -⟩ | ⟨hescape, -⟩ | ⟨hescape, -, hreturn, -⟩ :=
    escapeChar_cases lines hquote
  · exact ⟨'\\', [letter], hescape, by decide, by decide, by simp⟩
  · exact ⟨'\\', _, hescape, by decide, by decide, by simp⟩
  · exact ⟨c, [], hescape, hquote, hreturn, id⟩

theorem escape_cons (lines : Bool) (allowed run : Nat) {c : Char} (hquote : c ≠ '"')
    (text : List Char) :
    escape lines allowed run (c :: text) =
      escapeChar lines c ++ escape lines allowed 0 text := by
  rw [escape]
  exact hquote

/-- Where no quote may stand for itself, what is written begins with none. -/
theorem exists_head_escape (lines : Bool) {allowed run : Nat} {c : Char}
    (hquote : allowed ≤ run ∨ c ≠ '"') (text : List Char) :
    ∃ first more, escape lines allowed run (c :: text) = first :: more ∧
      first ≠ '"' ∧ first ≠ '\r' ∧ (first = '\n' → c = '\n') := by
  by_cases hc : c = '"'
  · subst hc
    have hrun : ¬ run < allowed := by
      have hallowed : allowed ≤ run := hquote.resolve_right (by simp)
      omega
    refine ⟨'\\', '"' :: escape lines allowed 0 text, ?_, by decide, by decide, by simp⟩
    simp [escape, hrun]
  · obtain ⟨first, more, hhead, hfirst⟩ := exists_head_escapeChar lines hc
    refine ⟨first, more ++ escape lines allowed 0 text, ?_, hfirst⟩
    rw [escape_cons lines allowed run hc, hhead, List.cons_append]

/-! ## Two double quotes -/

theorem readBasic_escapeChar (done rest : List Char) {c : Char} (hquote : c ≠ '"') :
    readBasic done (escapeChar false c ++ rest) = readBasic (c :: done) rest := by
  obtain ⟨letter, hescape, hletter, hu, hU⟩ | ⟨hescape, hcontrol⟩ |
    ⟨hescape, hbackslash, -, hline | hplain⟩ := escapeChar_cases false hquote
  · rw [hescape]
    show readBasic done ('\\' :: letter :: rest) = _
    rw [readBasic, hletter]
    · intro _ _ _ _ _ heq
      exact absurd heq hu
    · intro _ _ _ _ _ _ _ _ _ heq
      exact absurd heq hU
  · rw [hescape]
    show readBasic done ('\\' :: 'u' :: '0' :: '0' :: hexDigit (c.toNat / 16) ::
      hexDigit (c.toNat % 16) :: rest) = _
    rw [readBasic, codePoint?_control hcontrol]
  · exact absurd hline.2 (by decide)
  · have hkept : (c == '\\' || isControl c) = false := by
      simp [hbackslash, hplain.2]
    rw [hescape, List.singleton_append, readBasic, hkept]
    · rfl
    · exact hquote
    · intro _ _ _ _ _ heq
      exact absurd heq hbackslash
    · intro _ _ _ _ _ _ _ _ _ heq
      exact absurd heq hbackslash
    · intro _ _ heq
      exact absurd heq hbackslash

/-- Every text is read back from between double quotes. -/
theorem readBasic_escape (done text rest : List Char) :
    readBasic done (escape false 0 0 text ++ '"' :: rest) =
      some (String.ofList (done.reverse ++ text), rest) := by
  induction text generalizing done with
  | nil => rw [escape, List.nil_append, readBasic, List.append_nil]
  | cons c text ih =>
      have hstep : readBasic done (escape false 0 0 (c :: text) ++ '"' :: rest) =
          readBasic (c :: done) (escape false 0 0 text ++ '"' :: rest) := by
        by_cases hquote : c = '"'
        · subst hquote
          rfl
        · rw [escape_cons false 0 0 hquote, List.append_assoc,
            readBasic_escapeChar done _ hquote]
      rw [hstep, ih, List.reverse_cons, List.append_assoc, List.singleton_append]

/-! ## Three double quotes -/

theorem readMultiBasic_escapeChar (done rest : List Char) {c : Char}
    (hquote : c ≠ '"') :
    readMultiBasic false done (escapeChar true c ++ rest) =
      readMultiBasic false (c :: done) rest := by
  obtain ⟨letter, hescape, hletter, hu, hU⟩ | ⟨hescape, hcontrol⟩ |
    ⟨hescape, hbackslash, hreturn, hline | hplain⟩ := escapeChar_cases true hquote
  · rw [hescape]
    show readMultiBasic false done ('\\' :: letter :: rest) = _
    rw [readMultiBasic, hletter]
    · intro _ _ _ _ _ heq
      exact absurd heq hu
    · intro _ _ _ _ _ _ _ _ _ heq
      exact absurd heq hU
  · rw [hescape]
    show readMultiBasic false done ('\\' :: 'u' :: '0' :: '0' ::
      hexDigit (c.toNat / 16) :: hexDigit (c.toNat % 16) :: rest) = _
    rw [readMultiBasic, codePoint?_control hcontrol]
  · rw [hescape, hline.1]
    rfl
  · have hkept : (c == '\\' || isControl c) = false := by
      simp [hbackslash, hplain.2]
    rw [hescape, List.singleton_append, readMultiBasic, hkept]
    · rfl
    all_goals simp [hquote, hbackslash, hreturn, hplain.1]

/-- A quote that is not the first of three stands for itself. -/
theorem readMultiBasic_quote (done rest : List Char)
    (hrest : ∀ tail, rest ≠ '"' :: '"' :: tail) :
    readMultiBasic false done ('"' :: rest) = readMultiBasic false ('"' :: done) rest := by
  rw [readMultiBasic]
  · rfl
  all_goals simp
  · exact fun tail => hrest _
  · exact fun tail => hrest _
  · exact hrest

/-- Quotes of either kind. -/
def isQuote (c : Char) : Bool :=
  c == '"' || c == '\''

/-- The quotes that close a text are read together with the ones at its end, of
which there are two at most. -/
theorem readMultiBasic_close (done : List Char) {rest : List Char}
    (hrest : Stops isQuote rest) :
    readMultiBasic false done ('"' :: '"' :: '"' :: rest) =
        some (String.ofList done.reverse, rest) ∧
      readMultiBasic false done ('"' :: '"' :: '"' :: '"' :: rest) =
        some (String.ofList (done.reverse ++ ['"']), rest) ∧
      readMultiBasic false done ('"' :: '"' :: '"' :: '"' :: '"' :: rest) =
        some (String.ofList (done.reverse ++ ['"', '"']), rest) := by
  have hquote : ∀ tail, rest ≠ '"' :: tail := fun tail => hrest.ne_cons rfl tail
  refine ⟨?_, ?_, ?_⟩
  · rw [readMultiBasic]
    · exact fun tail => hquote _
    · exact fun tail => hquote _
  · rw [readMultiBasic, List.reverse_cons]
    exact fun tail => hquote _
  · rw [readMultiBasic, List.reverse_cons, List.reverse_cons, List.append_assoc]
    rfl

/-- Behind a quote that stands for itself no two more follow, unless the text ends
in quotes there. -/
theorem escape_ne_two_quotes {run : Nat} (hrun : 1 ≤ run) {text : List Char}
    (hend : ¬ (text = [] ∨ text = ['"'] ∧ run = 1)) (more tail : List Char) :
    escape true 2 run text ++ more ≠ '"' :: '"' :: tail := by
  intro heq
  cases text with
  | nil => exact hend (.inl rfl)
  | cons c text =>
      by_cases hhead : 2 ≤ run ∨ c ≠ '"'
      · obtain ⟨first, rest, hescape, hfirst, -⟩ := exists_head_escape true hhead text
        rw [hescape, List.cons_append, List.cons.injEq] at heq
        exact hfirst heq.1
      · have hone : run = 1 := by omega
        have hc : c = '"' := by
          by_contra hc
          exact hhead (.inr hc)
        subst hone hc
        cases text with
        | nil => exact hend (.inr ⟨rfl, rfl⟩)
        | cons d text =>
            obtain ⟨first, rest, hescape, hfirst, -⟩ :=
              exists_head_escape true (.inl (Nat.le_refl 2)) (c := d) text
            have hquotes : escape true 2 1 ('"' :: d :: text) =
                '"' :: escape true 2 2 (d :: text) := rfl
            rw [hquotes, hescape, List.cons_append, List.cons_append, List.cons.injEq,
              List.cons.injEq] at heq
            exact hfirst heq.2.1

/-- Every text is read back from between three double quotes. The induction is on
the text, with the number of quotes that stand in front of it. -/
theorem readMultiBasic_escape {run : Nat} (hrun : run ≤ 2) (done text : List Char)
    {rest : List Char} (hrest : Stops isQuote rest) :
    readMultiBasic false done
        (escape true 2 run text ++ '"' :: '"' :: '"' :: rest) =
      some (String.ofList (done.reverse ++ text), rest) := by
  induction text generalizing run done with
  | nil =>
      rw [List.append_nil]
      exact (readMultiBasic_close done hrest).1
  | cons c text ih =>
      have happend : done.reverse ++ c :: text = (c :: done).reverse ++ text := by
        simp
      by_cases hquote : c = '"'
      · subst hquote
        by_cases hfull : run < 2
        · have hescape : escape true 2 run ('"' :: text) =
              '"' :: escape true 2 (run + 1) text := by
            simp [escape, hfull]
          rw [hescape, List.cons_append]
          by_cases hnil : text = []
          · subst hnil
            exact (readMultiBasic_close done hrest).2.1
          by_cases hlast : text = ['"'] ∧ run = 0
          · rw [hlast.1, hlast.2]
            exact (readMultiBasic_close done hrest).2.2
          · have hend : ¬ (text = [] ∨ text = ['"'] ∧ run + 1 = 1) := by
              simpa [hnil] using hlast
            rw [readMultiBasic_quote done _ (escape_ne_two_quotes (by omega) hend _),
              happend]
            exact ih (by omega) ('"' :: done)
        · have hescape : escape true 2 run ('"' :: text) =
              '\\' :: '"' :: escape true 2 0 text := by
            simp [escape, hfull]
          rw [hescape, happend]
          exact ih (by omega) ('"' :: done)
      · rw [escape_cons true 2 run hquote, List.append_assoc,
          readMultiBasic_escapeChar done _ hquote, happend]
        exact ih (by omega) (c :: done)

/-! ## Single quotes -/

/-- Rows of a character count from those in front, and none is forgotten. -/
theorem le_longestRunFrom (c : Char) (run longest : Nat) (text : List Char) :
    run ≤ longestRunFrom c run longest text ∧
      longest ≤ longestRunFrom c run longest text := by
  induction text generalizing run longest with
  | nil =>
      simp only [longestRunFrom]
      omega
  | cons d text ih =>
      rw [longestRunFrom]
      split
      · have hnext := ih (run + 1) longest
        omega
      · have hnext := ih 0 (max run longest)
        omega

theorem not_mem_of_longestRun {c : Char} {text : List Char}
    (hrun : longestRun c text = 0) : c ∉ text := by
  have hgeneral : ∀ text run longest, c ∈ text →
      0 < longestRunFrom c run longest text := by
    intro text
    induction text with
    | nil => simp
    | cons d text ih =>
        intro run longest hmem
        rw [longestRunFrom]
        by_cases hd : d = c
        · have hle := le_longestRunFrom c (run + 1) longest text
          simp only [hd, beq_self_eq_true, if_true]
          omega
        · have hmem : c ∈ text := by
            simpa [Ne.symm hd] using hmem
          simp only [beq_iff_eq, hd, if_false]
          exact ih 0 _ hmem
  intro hmem
  have hpos := hgeneral text 0 0 hmem
  rw [longestRun] at hrun
  omega

theorem needsEscapes_eq_false_iff {text : List Char} :
    needsEscapes text = false ↔ ∀ c ∈ text, c = '\n' ∨ isControl c = false := by
  simp only [needsEscapes, List.any_eq_false, Bool.and_eq_true, bne_iff_ne, not_and,
    Bool.not_eq_true]
  exact forall₂_congr fun c _ => by tauto

/-- A text without quotes and controls is read back from between single quotes. -/
theorem readLiteral_text (done : List Char) {text : List Char}
    (hquote : '\'' ∉ text) (hplain : ∀ c ∈ text, isControl c = false)
    (rest : List Char) :
    readLiteral done (text ++ '\'' :: rest) =
      some (String.ofList (done.reverse ++ text), rest) := by
  induction text generalizing done with
  | nil => rw [List.nil_append, readLiteral, List.append_nil]
  | cons c text ih =>
      have hc : c ≠ '\'' := fun heq => hquote (heq ▸ List.mem_cons_self)
      have hcontrol := hplain c List.mem_cons_self
      have htext := ih (c :: done) (fun hmem => hquote (List.mem_cons_of_mem c hmem))
        fun d hd => hplain d (List.mem_cons_of_mem c hd)
      rw [List.cons_append, readLiteral, hcontrol]
      · simpa using htext
      · exact hc

theorem readMultiLiteral_close (done : List Char) {rest : List Char}
    (hrest : Stops isQuote rest) :
    readMultiLiteral done ('\'' :: '\'' :: '\'' :: rest) =
        some (String.ofList done.reverse, rest) ∧
      readMultiLiteral done ('\'' :: '\'' :: '\'' :: '\'' :: rest) =
        some (String.ofList (done.reverse ++ ['\'']), rest) ∧
      readMultiLiteral done ('\'' :: '\'' :: '\'' :: '\'' :: '\'' :: rest) =
        some (String.ofList (done.reverse ++ ['\'', '\'']), rest) := by
  have hquote : ∀ tail, rest ≠ '\'' :: tail := fun tail => hrest.ne_cons rfl tail
  refine ⟨?_, ?_, ?_⟩
  · rw [readMultiLiteral]
    · exact fun tail => hquote _
    · exact fun tail => hquote _
  · rw [readMultiLiteral, List.reverse_cons]
    exact fun tail => hquote _
  · rw [readMultiLiteral, List.reverse_cons, List.reverse_cons, List.append_assoc]
    rfl

/-- A character is kept unless three quotes begin with it. -/
theorem readMultiLiteral_char (done rest : List Char) {c : Char}
    (hplain : c = '\n' ∨ isControl c = false)
    (hquotes : c = '\'' → ∀ tail, rest ≠ '\'' :: '\'' :: tail) :
    readMultiLiteral done (c :: rest) = readMultiLiteral (c :: done) rest := by
  by_cases hline : c = '\n'
  · subst hline
    rfl
  · have hcontrol := hplain.resolve_left hline
    have hreturn : c ≠ '\r' := by
      intro heq
      subst heq
      exact absurd hcontrol (by decide)
    rw [readMultiLiteral, hcontrol]
    · rfl
    · exact fun tail heq => hquotes heq _
    · exact fun tail heq => hquotes heq _
    · exact fun tail heq => hquotes heq _
    · exact fun tail heq => absurd heq hreturn
    · exact hline

/-- Behind a quote no two more follow in such a text, unless it ends there. -/
theorem append_ne_two_quotes {run longest : Nat} {text : List Char} (hpos : 1 ≤ run)
    (hrun : longestRunFrom '\'' run longest text ≤ 2) (hnil : text ≠ [])
    (hlast : text ≠ ['\'']) (more tail : List Char) :
    text ++ more ≠ '\'' :: '\'' :: tail := by
  intro heq
  cases text with
  | nil => exact hnil rfl
  | cons c text =>
      cases text with
      | nil =>
          simp only [List.cons_append, List.cons.injEq] at heq
          exact hlast (by rw [heq.1])
      | cons d text =>
          simp only [List.cons_append, List.cons.injEq] at heq
          rw [heq.1, heq.2.1] at hrun
          have hle := le_longestRunFrom '\'' (run + 1 + 1) longest text
          simp only [longestRunFrom, beq_self_eq_true, if_true] at hrun
          omega

/-- A text with at most two quotes in a row and without controls is read back from
between three single quotes. The row of quotes in front is part of the
hypothesis. -/
theorem readMultiLiteral_text (done : List Char) {text : List Char} {run longest : Nat}
    (hrun : longestRunFrom '\'' run longest text ≤ 2)
    (hplain : ∀ c ∈ text, c = '\n' ∨ isControl c = false) {rest : List Char}
    (hrest : Stops isQuote rest) :
    readMultiLiteral done (text ++ '\'' :: '\'' :: '\'' :: rest) =
      some (String.ofList (done.reverse ++ text), rest) := by
  induction text generalizing done run longest with
  | nil =>
      rw [List.append_nil]
      exact (readMultiLiteral_close done hrest).1
  | cons c text ih =>
      have happend : done.reverse ++ c :: text = (c :: done).reverse ++ text := by
        simp
      have htext := fun d hd => hplain d (List.mem_cons_of_mem c hd)
      have hc := hplain c List.mem_cons_self
      rw [longestRunFrom] at hrun
      by_cases hquote : c = '\''
      · subst hquote
        simp only [beq_self_eq_true, if_true] at hrun
        by_cases hnil : text = []
        · subst hnil
          exact (readMultiLiteral_close done hrest).2.1
        by_cases hlast : text = ['\'']
        · subst hlast
          exact (readMultiLiteral_close done hrest).2.2
        · have hquotes : ∀ tail,
              text ++ '\'' :: '\'' :: '\'' :: rest ≠ '\'' :: '\'' :: tail :=
            append_ne_two_quotes (by omega) hrun hnil hlast _
          rw [List.cons_append, readMultiLiteral_char done _ hc fun _ => hquotes, happend]
          exact ih ('\'' :: done) hrun htext
      · simp only [beq_iff_eq, hquote, if_false] at hrun
        rw [List.cons_append,
          readMultiLiteral_char done _ hc fun heq => absurd heq hquote, happend]
        exact ih (c :: done) hrun htext

/-! ## The chosen quotes -/

theorem skipLineFeed_of_head {first : Char} (hline : first ≠ '\n')
    (hreturn : first ≠ '\r') (more : List Char) :
    skipLineFeed (first :: more) = first :: more := by
  rw [skipLineFeed, lineFeed?]
  · rfl
  · simp [hline]
  · simp [hreturn]

/-- Behind three quotes the end of line that starts a text of several lines is left
out. -/
theorem skipLineFeed_enclose {text body : List Char} (hbody : '\n' ∉ text →
      ∃ first more, body = first :: more ∧ first ≠ '\n' ∧ first ≠ '\r') :
    skipLineFeed ((if text.contains '\n' then "\n" else "").toList ++ body) = body := by
  by_cases hlines : '\n' ∈ text
  · have hcontains : text.contains '\n' = true := List.contains_iff_mem.mpr hlines
    rw [hcontains]
    rfl
  · have hcontains : text.contains '\n' = false := by
      simpa using hlines
    obtain ⟨first, more, heq, hline, hreturn⟩ := hbody hlines
    rw [hcontains, heq]
    exact skipLineFeed_of_head hline hreturn more

section Chosen

variable {rest : List Char} (hrest : Stops isQuote rest)

include hrest

theorem readString?_basic (text : List Char) :
    readString? ((Quotes.basic.write text).toList ++ rest) =
      some (String.ofList text, rest) := by
  have hchars : (Quotes.basic.write text).toList ++ rest =
      '"' :: (escape false 0 0 text ++ '"' :: rest) := by
    simp [Quotes.write]
  rw [hchars, readString?]
  · exact readBasic_escape [] text rest
  · intro tail heq
    cases text with
    | nil =>
        rw [escape, List.nil_append, List.cons.injEq] at heq
        exact hrest.ne_cons rfl tail heq.2
    | cons c text =>
        obtain ⟨first, more, hescape, hfirst, -⟩ :=
          exists_head_escape false (.inl (Nat.le_refl 0)) (c := c) text
        rw [hescape, List.cons_append, List.cons.injEq] at heq
        exact hfirst heq.1

theorem readString?_literal {text : List Char} (hquote : '\'' ∉ text)
    (hplain : ∀ c ∈ text, isControl c = false) :
    readString? ((Quotes.literal.write text).toList ++ rest) =
      some (String.ofList text, rest) := by
  have hchars : (Quotes.literal.write text).toList ++ rest =
      '\'' :: (text ++ '\'' :: rest) := by
    simp [Quotes.write]
  rw [hchars, readString?]
  · exact readLiteral_text [] hquote hplain rest
  · intro tail heq
    cases text with
    | nil =>
        rw [List.nil_append, List.cons.injEq] at heq
        exact hrest.ne_cons rfl tail heq.2
    | cons c text =>
        rw [List.cons_append, List.cons.injEq] at heq
        exact hquote (heq.1 ▸ List.mem_cons_self)

theorem readString?_multiBasic (text : List Char) :
    readString? ((Quotes.multiBasic.write text).toList ++ rest) =
      some (String.ofList text, rest) := by
  have hchars : (Quotes.multiBasic.write text).toList ++ rest =
      '"' :: '"' :: '"' :: ((if text.contains '\n' then "\n" else "").toList ++
        (escape true 2 0 text ++ '"' :: '"' :: '"' :: rest)) := by
    simp [Quotes.write, enclose]
  have hbody : '\n' ∉ text → ∃ first more,
      escape true 2 0 text ++ '"' :: '"' :: '"' :: rest = first :: more ∧
        first ≠ '\n' ∧ first ≠ '\r' := by
    intro hlines
    cases text with
    | nil => exact ⟨'"', '"' :: '"' :: rest, rfl, by decide, by decide⟩
    | cons c text =>
        by_cases hquote : c = '"'
        · subst hquote
          exact ⟨'"', _, rfl, by decide, by decide⟩
        · obtain ⟨first, more, hescape, -, hreturn, hline⟩ :=
            exists_head_escape true (.inr hquote) text
          rw [hescape]
          refine ⟨first, _, rfl, ?_, hreturn⟩
          intro heq
          exact hlines (hline heq ▸ List.mem_cons_self)
  rw [hchars, readString?, skipLineFeed_enclose hbody]
  exact readMultiBasic_escape (Nat.zero_le 2) [] text hrest

theorem readString?_multiLiteral {text : List Char} (hrun : longestRun '\'' text ≤ 2)
    (hplain : ∀ c ∈ text, c = '\n' ∨ isControl c = false) :
    readString? ((Quotes.multiLiteral.write text).toList ++ rest) =
      some (String.ofList text, rest) := by
  have hchars : (Quotes.multiLiteral.write text).toList ++ rest =
      '\'' :: '\'' :: '\'' :: ((if text.contains '\n' then "\n" else "").toList ++
        (text ++ '\'' :: '\'' :: '\'' :: rest)) := by
    simp [Quotes.write, enclose]
  have hbody : '\n' ∉ text → ∃ first more,
      text ++ '\'' :: '\'' :: '\'' :: rest = first :: more ∧
        first ≠ '\n' ∧ first ≠ '\r' := by
    intro hlines
    cases text with
    | nil => exact ⟨'\'', '\'' :: '\'' :: rest, rfl, by decide, by decide⟩
    | cons c text =>
        have hline : c ≠ '\n' := fun heq => hlines (heq ▸ List.mem_cons_self)
        have hcontrol := (hplain c List.mem_cons_self).resolve_left hline
        refine ⟨c, _, rfl, hline, ?_⟩
        intro heq
        rw [heq] at hcontrol
        exact absurd hcontrol (by decide)
  rw [hchars, readString?, skipLineFeed_enclose hbody]
  exact readMultiLiteral_text [] hrun hplain hrest

/-- Every string is read back from its text. -/
theorem readString?_stringText (text : String) :
    readString? ((stringText text).toList ++ rest) = some (text, rest) := by
  have htext : String.ofList text.toList = text := String.ofList_toList
  rw [stringText, Quotes.choose]
  split
  · rw [readString?_basic hrest, htext]
  split
  · next hliteral =>
    simp only [Bool.and_eq_true, Bool.not_eq_true', decide_eq_true_eq,
      List.contains_eq_mem, decide_eq_false_iff_not] at hliteral
    have hplain := needsEscapes_eq_false_iff.mp hliteral.1.1
    rw [readString?_literal hrest (not_mem_of_longestRun hliteral.1.2), htext]
    intro c hc
    refine (hplain c hc).resolve_left fun heq => hliteral.2 ?_
    rw [← heq]
    exact hc
  split
  · rw [readString?_multiBasic hrest, htext]
  split
  · next hliteral =>
    simp only [Bool.and_eq_true, Bool.not_eq_true', decide_eq_true_eq] at hliteral
    rw [readString?_multiLiteral hrest hliteral.2
      (needsEscapes_eq_false_iff.mp hliteral.1), htext]
  split
  · rw [readString?_multiBasic hrest, htext]
  · rw [readString?_basic hrest, htext]

end Chosen

end JavaSurvey.Toml
