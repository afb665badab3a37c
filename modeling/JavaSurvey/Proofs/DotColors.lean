import JavaSurvey.Proofs.DotDrawing

/-!
# Colours in the description of a call graph

A colour is any text that settings hold, and it is written as it is in two places:
behind `fillcolor=` as a value of its own, and in the legend between the quotes of
an attribute of the table. Unlike names it is not quoted, so it stands in both only
if it needs no quotes.

A value of an attribute of the table ends at the next quote. The four characters
that the table is made of are written as references in it, and they cannot stand
for themselves.

## Main results

* `lexStep_comma_iff`: the texts that are one name in front of a comma.
* `attributeValue?_quote_iff`: the texts that are the value of an attribute of the
  table.
* `colorsStand_iff`: the palettes whose colours stand in a description.
-/

namespace JavaSurvey.Dot

/-! ## Bare names -/

/-- Whether a text is a bare word that is no keyword. -/
def isBareWord : List Char → Bool
  | [] => false
  | c :: rest =>
    isWordStart c && rest.all isWordPart &&
      !keywords.contains (String.ofList ((c :: rest).map Char.toLower))

/-- Whether all of a text is one numeral. -/
def isNumeral (text : List Char) : Bool :=
  decide (numeral? text = some (text, []))

section Stop

variable {p : Char → Bool} {stop : Char} (hstop : p stop = false)

include hstop

theorem takeWhile_append_stop (text rest : List Char) :
    (text ++ stop :: rest).takeWhile p = text.takeWhile p := by
  induction text with
  | nil => simp [hstop]
  | cons c text ih =>
      rw [List.cons_append, List.takeWhile_cons, List.takeWhile_cons, ih]

theorem dropWhile_append_stop (text rest : List Char) :
    (text ++ stop :: rest).dropWhile p = text.dropWhile p ++ stop :: rest := by
  induction text with
  | nil => simp [hstop]
  | cons c text ih =>
      rw [List.cons_append, List.dropWhile_cons, List.dropWhile_cons, ih]
      split
      next => rfl
      next => rfl

end Stop

theorem head?_append_ne {text rest : List Char} {c stop : Char}
    (h : text.head? ≠ some c) (hstop : stop ≠ c) :
    (text ++ stop :: rest).head? ≠ some c := by
  cases text with
  | nil => simpa using hstop
  | cons first text => exact h

theorem unsigned?_of_point {text left : List Char}
    (h : text.dropWhile Char.isDigit = '.' :: left) :
    unsigned? text =
      if (text.takeWhile Char.isDigit).isEmpty && (left.takeWhile Char.isDigit).isEmpty then
        none
      else
        some (text.takeWhile Char.isDigit ++ '.' :: left.takeWhile Char.isDigit,
          left.dropWhile Char.isDigit) := by
  simp only [unsigned?, h]

theorem unsigned?_of_no_point {text : List Char}
    (h : (text.dropWhile Char.isDigit).head? ≠ some '.') :
    unsigned? text =
      if (text.takeWhile Char.isDigit).isEmpty then none
      else some (text.takeWhile Char.isDigit, text.dropWhile Char.isDigit) := by
  unfold unsigned?
  dsimp only
  split
  next left hleft => exact absurd (congrArg List.head? hleft) h
  next => rfl

/-- A comma ends a numeral. -/
theorem unsigned?_append_comma (text rest : List Char) :
    unsigned? (text ++ ',' :: rest) =
      (unsigned? text).map fun (digits, left) => (digits, left ++ ',' :: rest) := by
  have hcomma : Char.isDigit ',' = false := by decide
  by_cases hhead : (text.dropWhile Char.isDigit).head? = some '.'
  · obtain ⟨left, hleft⟩ := List.head?_eq_some_iff.1 hhead
    have hpoint : (text ++ ',' :: rest).dropWhile Char.isDigit =
        '.' :: (left ++ ',' :: rest) := by
      rw [dropWhile_append_stop hcomma, hleft, List.cons_append]
    rw [unsigned?_of_point hpoint, unsigned?_of_point hleft]
    simp only [takeWhile_append_stop hcomma, dropWhile_append_stop hcomma]
    split
    next => rfl
    next => rfl
  · have hnone : ((text ++ ',' :: rest).dropWhile Char.isDigit).head? ≠ some '.' := by
      rw [dropWhile_append_stop hcomma]
      exact head?_append_ne hhead (by decide)
    rw [unsigned?_of_no_point hnone, unsigned?_of_no_point hhead,
      takeWhile_append_stop hcomma, dropWhile_append_stop hcomma]
    split
    next => rfl
    next => rfl

theorem numeral?_of_not_sign {c : Char} (h : c ≠ '-') (text : List Char) :
    numeral? (c :: text) = unsigned? (c :: text) := by
  rw [numeral?]
  intro _ heq
  exact h (List.cons.inj heq).1

theorem numeral?_append_comma (text rest : List Char) :
    numeral? (text ++ ',' :: rest) =
      (numeral? text).map fun (digits, left) => (digits, left ++ ',' :: rest) := by
  cases text with
  | nil => rfl
  | cons c text =>
      by_cases hsign : c = '-'
      · subst hsign
        rw [List.cons_append, numeral?, numeral?, unsigned?_append_comma, Option.map_map,
          Option.map_map]
        rfl
      · rw [List.cons_append, numeral?_of_not_sign hsign, numeral?_of_not_sign hsign,
          ← List.cons_append, unsigned?_append_comma]

theorem length_le_of_quoted? {text found rest : List Char}
    (h : quoted? text = some (found, rest)) :
    found.length + rest.length < text.length := by
  fun_induction quoted? text generalizing found with
  | case1 => cases h
  | case2 text =>
      cases h
      simp
  | case3 c text ih =>
      obtain ⟨⟨inner, _⟩, hinner, heq⟩ := Option.map_eq_some_iff.1 h
      cases heq
      have hlt := ih hinner
      have hone : (afterBackslash c).length ≤ 2 := by
        unfold afterBackslash
        split
        next => decide
        next => split <;> simp
      simp only [List.length_append, List.length_cons]
      omega
  | case4 c text _ _ ih =>
      obtain ⟨⟨inner, _⟩, hinner, heq⟩ := Option.map_eq_some_iff.1 h
      cases heq
      have hlt := ih hinner
      simp only [List.length_cons]
      omega

/-- A word is read as it is written unless it is a keyword. -/
theorem ofWord_eq_name_iff (word : List Char) (name : String) :
    Lexeme.ofWord word = .name name ↔
      keywords.contains (String.ofList (word.map Char.toLower)) = false ∧
        String.ofList word = name := by
  unfold Lexeme.ofWord
  dsimp only
  split
  next hkeyword => simp only [hkeyword, reduceCtorEq, Bool.true_eq_false, false_and]
  next hkeyword => simp only [hkeyword, Lexeme.name.injEq, true_and]

/-- A character of words and numerals begins neither a quoted name nor a text between
angle brackets, and it is neither white space nor a mark. -/
theorem apart_of_isBare {c : Char} (h : isBare c = true) :
    isBlank c = false ∧ c ≠ '"' ∧ c ≠ '<' ∧ isMark c = false := by
  have hother : ∀ others : List Char, (others.all fun other => !isBare other) = true →
      c ∉ others := by
    intro others hothers hc
    have hnot := List.all_eq_true.1 hothers c hc
    rw [h] at hnot
    cases hnot
  have hquote := hother ['"', '<'] (by decide)
  have hblank := hother [' ', '\t', '\n', '\r'] (by decide)
  have hmark := hother ['\x7b', '\x7d', '[', ']', '=', ';', ','] (by decide)
  simp only [List.mem_cons, List.not_mem_nil, or_false, not_or] at hquote
  refine ⟨?_, hquote.1, hquote.2, ?_⟩
  · simpa [isBlank, and_assoc] using hblank
  · simpa [isMark] using hmark

theorem isBare_of_isWordStart {c : Char} (h : isWordStart c = true) : isBare c = true := by
  simp [isBare, isWordPart, h]

theorem numeral?_of_isWordStart {c : Char} (h : isWordStart c = true) (text : List Char) :
    numeral? (c :: text) = none := by
  have hdigit : c.isDigit = false := by
    by_contra hdigit
    simp only [Char.isDigit, Bool.not_eq_false, Bool.and_eq_true, decide_eq_true_eq,
      UInt32.le_iff_toNat_le, Char.toNat_val, Char.reduceToNat] at hdigit
    unfold isWordStart Char.isAlpha Char.isUpper Char.isLower at h
    simp only [Bool.or_eq_true, Bool.and_eq_true, decide_eq_true_eq,
      UInt32.le_iff_toNat_le, beq_iff_eq, Char.toNat_val, Char.reduceToNat] at h
    rcases h with (h | rfl) | h
    · omega
    · exact absurd hdigit (by decide)
    · omega
  have hmark : c ≠ '-' ∧ c ≠ '.' := by
    constructor
    · rintro rfl
      exact absurd h (by decide)
    · rintro rfl
      exact absurd h (by decide)
  have hpoint : ((c :: text).dropWhile Char.isDigit).head? ≠ some '.' := by
    simpa [List.dropWhile_cons, hdigit] using hmark.2
  rw [numeral?_of_not_sign hmark.1, unsigned?_of_no_point hpoint, List.takeWhile_cons,
    hdigit]
  rfl

/-- A bare name and a numeral are made of the characters of words and numerals. -/
theorem isBare_of_plain {text : List Char}
    (h : isBareWord text = true ∨ isNumeral text = true) :
    ∀ c ∈ text, isBare c = true := by
  rcases h with hword | hnumeral
  · cases text with
    | nil => cases hword
    | cons first text =>
        simp only [isBareWord, Bool.and_eq_true, List.all_eq_true] at hword
        refine List.forall_mem_cons.2 ⟨isBare_of_isWordStart hword.1.1, fun c hc => ?_⟩
        simp [isBare, hword.1.2 c hc]
  · exact (takes_numeral? (of_decide_eq_true hnumeral)).1

/-! ## Names in front of a comma -/

section Comma

variable {c : Char} (text rest : List Char)

theorem lexStep_word_comma (h : isWordStart c = true) :
    lexStep (c :: (text ++ ',' :: rest)) =
      some ([.ofWord (c :: text.takeWhile isWordPart)],
        text.dropWhile isWordPart ++ ',' :: rest) := by
  have hcomma : isWordPart ',' = false := by decide
  obtain ⟨hblank, hquote, hopen, hmark⟩ := apart_of_isBare (isBare_of_isWordStart h)
  have hsign : c ≠ '-' := by
    rintro rfl
    exact absurd h (by decide)
  rw [lexStep, hblank, if_neg Bool.false_ne_true,
    lexeme?_cons hquote hopen fun hc => absurd hc hsign, hmark,
    if_neg Bool.false_ne_true, if_pos h, takeWhile_append_stop hcomma,
    dropWhile_append_stop hcomma]
  rfl

theorem lexStep_numeral_comma (hbare : isBare c = true) (hword : isWordStart c = false)
    (harrow : c = '-' → text.head? ≠ some '>') :
    lexStep (c :: (text ++ ',' :: rest)) =
      (numeral? (c :: text)).map fun (digits, left) =>
        ([.name (String.ofList digits)], left ++ ',' :: rest) := by
  obtain ⟨hblank, hquote, hopen, hmark⟩ := apart_of_isBare hbare
  have hnext : c = '-' → (text ++ ',' :: rest).head? ≠ some '>' :=
    fun hc => head?_append_ne (harrow hc) (by decide)
  rw [lexStep, hblank, if_neg Bool.false_ne_true, lexeme?_cons hquote hopen hnext, hmark,
    if_neg Bool.false_ne_true, hword, if_neg Bool.false_ne_true, ← List.cons_append,
    numeral?_append_comma, Option.map_map, Option.map_map]
  rfl

/-- What begins with another character is no name, or it is a quoted one and longer
than what it is read as. -/
theorem lexStep_comma_ne (h : isBare c = false) :
    lexStep (c :: (text ++ ',' :: rest)) ≠
      some ([.name (String.ofList (c :: text))], ',' :: rest) := by
  intro hstep
  rw [lexStep] at hstep
  split at hstep
  next => cases hstep
  next =>
    obtain ⟨⟨lexeme, left⟩, hlexeme, heq⟩ := Option.map_eq_some_iff.1 hstep
    cases heq
    by_cases hquote : c = '"'
    · subst hquote
      obtain ⟨⟨found, left⟩, hfound, heq⟩ := Option.map_eq_some_iff.1 hlexeme
      rw [Prod.mk.injEq, Lexeme.name.injEq] at heq
      obtain ⟨hname, rfl⟩ := heq
      have hlength := length_le_of_quoted? hfound
      rw [String.ofList_injective hname, List.length_append, List.length_cons] at hlength
      omega
    · by_cases hopen : c = '<'
      · subst hopen
        obtain ⟨_, _, heq⟩ := Option.map_eq_some_iff.1 hlexeme
        cases heq
      · have hsign : c ≠ '-' := by
          rintro rfl
          exact absurd h (by decide)
        rw [lexeme?_cons hquote hopen fun hc => absurd hc hsign] at hlexeme
        split at hlexeme
        next => cases hlexeme
        next =>
          split at hlexeme
          next hword =>
            rw [isBare_of_isWordStart hword] at h
            cases h
          next =>
            obtain ⟨⟨found, left⟩, hfound, _⟩ := Option.map_eq_some_iff.1 hlexeme
            obtain ⟨hbare, hne, hsplit, _⟩ := takes_numeral? hfound
            obtain ⟨first, found, rfl⟩ := List.exists_cons_of_ne_nil hne
            rw [← (List.cons.inj hsplit).1] at hbare
            rw [hbare c List.mem_cons_self] at h
            cases h

theorem lexStep_word_comma_iff (h : isWordStart c = true) :
    lexStep (c :: (text ++ ',' :: rest)) =
        some ([.name (String.ofList (c :: text))], ',' :: rest) ↔
      isBareWord (c :: text) = true := by
  rw [lexStep_word_comma text rest h, Option.some.injEq, Prod.mk.injEq,
    List.singleton_inj, ofWord_eq_name_iff, List.append_left_eq_self,
    List.dropWhile_eq_nil_iff]
  constructor
  · rintro ⟨⟨hkeyword, _⟩, hall⟩
    rw [List.takeWhile_eq_self_iff.2 hall] at hkeyword
    rw [isBareWord, h, List.all_eq_true.2 hall, hkeyword]
    rfl
  · intro hplain
    simp only [isBareWord, Bool.and_eq_true, List.all_eq_true, Bool.not_eq_true'] at hplain
    obtain ⟨⟨_, hall⟩, hkeyword⟩ := hplain
    rw [List.takeWhile_eq_self_iff.2 hall]
    exact ⟨⟨hkeyword, rfl⟩, hall⟩

theorem lexStep_numeral_comma_iff (hbare : isBare c = true) (hword : isWordStart c = false) :
    lexStep (c :: (text ++ ',' :: rest)) =
        some ([.name (String.ofList (c :: text))], ',' :: rest) ↔
      isNumeral (c :: text) = true := by
  by_cases harrow : c = '-' ∧ text.head? = some '>'
  · obtain ⟨rfl, hhead⟩ := harrow
    obtain ⟨left, rfl⟩ := List.head?_eq_some_iff.1 hhead
    constructor
    · intro hstep
      cases hstep
    · intro hnumeral
      have hclose := isBare_of_plain (.inr hnumeral) '>' (by simp)
      exact absurd hclose (by decide)
  · rw [lexStep_numeral_comma text rest hbare hword fun hc hhead => harrow ⟨hc, hhead⟩,
      isNumeral, decide_eq_true_iff, Option.map_eq_some_iff]
    constructor
    · rintro ⟨⟨digits, left⟩, hfound, heq⟩
      simp only [Prod.mk.injEq, List.singleton_inj, Lexeme.name.injEq,
        List.append_left_eq_self] at heq
      obtain ⟨hdigits, rfl⟩ := heq
      rwa [String.ofList_injective hdigits] at hfound
    · intro hnumeral
      exact ⟨_, hnumeral, rfl⟩

end Comma

/-- The names that are read in front of a comma as they are written: bare words and
numerals. -/
theorem lexStep_comma_iff (text rest : List Char) :
    lexStep (text ++ ',' :: rest) = some ([.name (String.ofList text)], ',' :: rest) ↔
      isBareWord text = true ∨ isNumeral text = true := by
  cases text with
  | nil =>
      constructor
      · intro hstep
        cases hstep
      · rintro (hword | hnumeral)
        · cases hword
        · cases hnumeral
  | cons c text =>
      rw [List.cons_append]
      cases hbare : isBare c with
      | false =>
          refine iff_of_false (lexStep_comma_ne text rest hbare) fun hplain => ?_
          rw [isBare_of_plain hplain c List.mem_cons_self] at hbare
          cases hbare
      | true =>
          cases hword : isWordStart c with
          | true =>
              have hnumeral : isNumeral (c :: text) = false := by
                rw [isNumeral, numeral?_of_isWordStart hword]
                rfl
              rw [lexStep_word_comma_iff text rest hword, hnumeral]
              simp only [Bool.false_eq_true, or_false]
          | false =>
              have hbareWord : isBareWord (c :: text) = false := by
                rw [isBareWord, hword]
                rfl
              rw [lexStep_numeral_comma_iff text rest hbare hword, hbareWord]
              simp only [Bool.false_eq_true, false_or]

/-! ## Attributes of a table -/

/-- The characters that a table is made of. -/
def tableMarks : List Char := ['"', '<', '>', '&']

/-- What may stand for one of them behind an ampersand. -/
def references : List (String × Char) :=
  [("quot;", '"'), ("lt;", '<'), ("gt;", '>'), ("amp;", '&')]

/-- A step of reading the value of an attribute between its quotes. -/
def valueStep : List Char → Option (List Char × List Char)
  | [] => none
  | c :: rest =>
    if c == '&' then
      references.findSome? fun (name, meant) =>
        if name.toList.isPrefixOf rest then some ([meant], rest.drop name.length) else none
    else if tableMarks.contains c then none
    else some ([c], rest)

/-- The value of an attribute behind its opening quote, and the text behind its
closing quote. -/
def attributeValue? (text : List Char) : Option (String × List Char) :=
  match text.dropWhile (· != '"') with
  | [] => none
  | _ :: rest =>
    (readAll valueStep (text.takeWhile (· != '"'))).map fun value =>
      (String.ofList value, rest)

/-- A character stands for itself, or a longer reference stands for one. -/
theorem valueStep_cases {c : Char} {text found rest : List Char}
    (h : valueStep (c :: text) = some (found, rest)) :
    (c ∉ tableMarks ∧ found = [c] ∧ rest = text) ∨
      (found.length = 1 ∧ rest.length < text.length) := by
  rw [valueStep] at h
  split at h
  next =>
    right
    obtain ⟨⟨name, meant⟩, hmem, hreference⟩ := List.exists_of_findSome?_eq_some h
    dsimp only at hreference
    split at hreference
    next hfront =>
      cases hreference
      have hname : 0 < name.length :=
        (by decide : ∀ reference ∈ references, 0 < reference.1.length) _ hmem
      have hle := (List.isPrefixOf_iff_prefix.1 hfront).length_le
      rw [String.length_toList] at hle
      rw [List.length_drop]
      exact ⟨rfl, by omega⟩
    next => cases hreference
  next =>
    split at h
    next => cases h
    next hmark =>
      cases h
      exact .inl ⟨by simpa using hmark, rfl, rfl⟩

/-- What is read between the quotes is no longer than what stands there, and of the
same length only if every character stands for itself. -/
theorem length_le_of_valueStep {fuel : Nat} {text found : List Char}
    (h : readWith valueStep fuel text = some found) :
    found.length ≤ text.length ∧
      (found.length = text.length → ∀ c ∈ text, c ∉ tableMarks) := by
  induction fuel generalizing text found with
  | zero =>
      cases text with
      | nil =>
          cases h
          exact ⟨Nat.le_refl _, fun _ c hc => absurd hc List.not_mem_nil⟩
      | cons c text => cases h
  | succ fuel ih =>
      cases text with
      | nil =>
          cases h
          exact ⟨Nat.le_refl _, fun _ c hc => absurd hc List.not_mem_nil⟩
      | cons c text =>
          obtain ⟨⟨first, rest⟩, hfirst, h⟩ := Option.bind_eq_some_iff.1 h
          obtain ⟨others, hothers, rfl⟩ := Option.map_eq_some_iff.1 h
          obtain ⟨hle, hplain⟩ := ih hothers
          rw [List.length_append, List.length_cons]
          rcases valueStep_cases hfirst with ⟨hc, rfl, rfl⟩ | ⟨hone, hlt⟩
          · rw [List.length_singleton]
            refine ⟨by omega, fun heq => ?_⟩
            exact List.forall_mem_cons.2 ⟨hc, hplain (by omega)⟩
          · refine ⟨by omega, fun heq => ?_⟩
            omega

theorem readAll_valueStep_iff (text : List Char) :
    readAll valueStep text = some text ↔ ∀ c ∈ text, c ∉ tableMarks := by
  constructor
  · intro h
    exact (length_le_of_valueStep h).2 rfl
  · intro h
    unfold readAll
    induction text with
    | nil => rfl
    | cons c text ih =>
        obtain ⟨hc, htext⟩ := List.forall_mem_cons.1 h
        have hstep : valueStep (c :: text) = some ([c], text) := by
          have hreference : (c == '&') = false := by
            rw [beq_eq_false_iff_ne]
            rintro rfl
            exact hc (by decide)
          rw [valueStep, hreference, if_neg Bool.false_ne_true,
            if_neg (by simpa using hc)]
        rw [List.length_cons, readWith_of_step hstep, ih htext]
        rfl

/-- The values that are read in front of a quote as they are written. -/
theorem attributeValue?_quote_iff (text rest : List Char) :
    attributeValue? (text ++ '"' :: rest) = some (String.ofList text, rest) ↔
      ∀ c ∈ text, c ∉ tableMarks := by
  have hquote : ('"' != '"') = false := by decide
  rw [← readAll_valueStep_iff, attributeValue?,
    @takeWhile_append_stop (· != '"') '"' hquote, @dropWhile_append_stop (· != '"') '"' hquote]
  cases hleft : text.dropWhile (· != '"') with
  | nil =>
      rw [List.takeWhile_eq_self_iff.2 (List.dropWhile_eq_nil_iff.1 hleft)]
      simp only [List.nil_append, Option.map_eq_some_iff, Prod.mk.injEq, and_true]
      constructor
      · rintro ⟨value, hvalue, heq⟩
        rwa [String.ofList_injective heq] at hvalue
      · intro hvalue
        exact ⟨text, hvalue, rfl⟩
  | cons first left =>
      -- A quote in the text would close it early.
      constructor
      · intro h
        rw [List.cons_append] at h
        obtain ⟨_, _, heq⟩ := Option.map_eq_some_iff.1 h
        have hlength := congrArg List.length (Prod.mk.inj heq).2
        rw [List.length_append, List.length_cons] at hlength
        omega
      · intro h
        have hall : ∀ c ∈ text, (c != '"') = true := by
          intro c hc
          have hmark := (readAll_valueStep_iff text).1 h c hc
          rw [bne_iff_ne]
          rintro rfl
          exact hmark (by decide)
        rw [List.dropWhile_eq_nil_iff.2 hall] at hleft
        cases hleft

end JavaSurvey.Dot

namespace JavaSurvey.CallGraph

open Dot

/-- Whether a colour is a bare word or a numeral. -/
def isPlainColor (color : String) : Bool :=
  isBareWord color.toList || isNumeral color.toList

/-- What stands in the statement of a node behind `fillcolor=`. -/
def behindFill (palette : Palette) (node : CallNode) : List Char :=
  (nodeStatement palette node).toList.drop (quote node.name ++ " [fillcolor=").length

/-- What stands in a row of the legend behind the opening quote of `BGCOLOR`. -/
def behindBackground (color label : String) : List Char :=
  (legendRow color label).toList.drop "<TR><TD BGCOLOR=\"".length

theorem drop_length_toList_append (front rest : String) :
    (front ++ rest).toList.drop front.length = rest.toList := by
  rw [String.toList_append, ← String.length_toList, List.drop_left]

theorem behindFill_eq (palette : Palette) (node : CallNode) :
    behindFill palette node =
      (palette.colorOf node.cls).toList ++ ", style=filled];\n".toList := by
  rw [behindFill, nodeStatement, String.append_assoc, drop_length_toList_append,
    String.toList_append]

theorem toList_closing (rest : String) :
    ("\">" ++ rest).toList = '"' :: (">" ++ rest).toList := by
  have hclose : "\">".toList = ['"', '>'] := by decide
  have hangle : ">".toList = ['>'] := by decide
  rw [String.toList_append, String.toList_append, hclose, hangle]
  rfl

theorem behindBackground_eq (color label : String) :
    behindBackground color label =
      color.toList ++ '"' :: (">" ++ (label ++ "</TD></TR>\n")).toList := by
  have hrow : legendRow color label =
      "<TR><TD BGCOLOR=\"" ++ (color ++ ("\">" ++ (label ++ "</TD></TR>\n"))) := by
    unfold legendRow
    simp only [String.append_assoc]
  calc behindBackground color label
      = (color ++ ("\">" ++ (label ++ "</TD></TR>\n"))).toList := by
        unfold behindBackground
        rw [hrow]
        exact drop_length_toList_append _ _
    _ = color.toList ++ '"' :: (">" ++ (label ++ "</TD></TR>\n")).toList := by
        rw [String.toList_append, toList_closing]

/-- The statements that are meant: each node is filled with the colour of its class. -/
def meantStatements (palette : Palette) (graph : Graph) : List Statement :=
  defaultsRead :: (graph.edges.toList.map edgeRead ++
    (graph.nodes.map fun node =>
      .node (identifier node.name)
        [("fillcolor", .text (palette.colorOf node.cls)), ("style", .text "filled")]) ++
    legendRead palette)

/-- The colours of a palette stand in the description of a graph. -/
structure ColorsStand (palette : Palette) (graph : Graph) : Prop where
  /-- Each node is filled with one name, and it is the colour of its class. -/
  fill : ∀ node ∈ graph.nodes, lexStep (behindFill palette node) =
    some ([.name (palette.colorOf node.cls)], ", style=filled];\n".toList)
  /-- The quote behind a colour in the legend is the one that closes it, and what it
  closes is the colour. -/
  background : ∀ cls label, attributeValue? (behindBackground (palette.colorOf cls) label) =
    some (palette.colorOf cls, (">" ++ (label ++ "</TD></TR>\n")).toList)
  /-- No colour changes the statements around it. -/
  statements : statements? (graph.toDot palette) = some (meantStatements palette graph)

theorem lexStep_behindFill_iff (palette : Palette) (node : CallNode) :
    lexStep (behindFill palette node) =
        some ([.name (palette.colorOf node.cls)], ", style=filled];\n".toList) ↔
      isPlainColor (palette.colorOf node.cls) = true := by
  have hstep := lexStep_comma_iff (palette.colorOf node.cls).toList " style=filled];\n".toList
  rw [String.ofList_toList] at hstep
  rw [behindFill_eq, isPlainColor, Bool.or_eq_true]
  exact hstep

theorem attributeValue?_behindBackground_iff (color label : String) :
    attributeValue? (behindBackground color label) =
        some (color, (">" ++ (label ++ "</TD></TR>\n")).toList) ↔
      ∀ c ∈ color.toList, c ∉ tableMarks := by
  have hvalue := attributeValue?_quote_iff color.toList (">" ++ (label ++ "</TD></TR>\n")).toList
  rw [String.ofList_toList] at hvalue
  rw [behindBackground_eq]
  exact hvalue

section Plain

variable {palette : Palette}
  (hmarks : ∀ cls, ∀ c ∈ (palette.colorOf cls).toList, c ∉ tableMarks)

include hmarks

theorem angles_of_no_marks (cls : NodeClass) :
    ∀ c ∈ (palette.colorOf cls).toList, c ≠ '<' ∧ c ≠ '>' := by
  intro c hc
  have hmark := hmarks cls c hc
  simp only [tableMarks, List.mem_cons, List.not_mem_nil, or_false, not_or] at hmark
  exact ⟨hmark.2.1, hmark.2.2.1⟩

/-- A plain colour stands for itself. -/
theorem colorName?_of_plain {cls : NodeClass}
    (hplain : isPlainColor (palette.colorOf cls) = true) :
    colorName? (palette.colorOf cls) = some (palette.colorOf cls) := by
  have hstep := (lexStep_comma_iff (palette.colorOf cls).toList []).2
    (Bool.or_eq_true_iff.1 hplain)
  have hangles : ((palette.colorOf cls).toList.all fun c => c != '<' && c != '>') = true := by
    simpa using angles_of_no_marks hmarks cls
  rw [colorName?, hstep, String.ofList_toList]
  exact if_pos hangles

theorem nameOf_of_plain {cls : NodeClass}
    (hplain : isPlainColor (palette.colorOf cls) = true) :
    palette.nameOf cls = palette.colorOf cls := by
  rw [Palette.nameOf, colorName?_of_plain hmarks hplain, Option.getD_some]

theorem fits_of_plain {graph : Graph}
    (hplain : ∀ node ∈ graph.nodes, isPlainColor (palette.colorOf node.cls) = true) :
    palette.Fits graph where
  names node hnode := by
    rw [colorName?_of_plain hmarks (hplain node hnode),
      nameOf_of_plain hmarks (hplain node hnode)]
  angles := angles_of_no_marks hmarks

theorem statements?_of_plain {graph : Graph}
    (hplain : ∀ node ∈ graph.nodes, isPlainColor (palette.colorOf node.cls) = true) :
    statements? (graph.toDot palette) = some (meantStatements palette graph) := by
  have hnodes : (graph.nodes.map fun node =>
      Statement.node (identifier node.name) (nodeAttributes palette node)) =
      graph.nodes.map fun node =>
        .node (identifier node.name)
          [("fillcolor", .text (palette.colorOf node.cls)), ("style", .text "filled")] := by
    refine List.map_congr_left fun node hnode => ?_
    rw [nodeAttributes, nameOf_of_plain hmarks (hplain node hnode)]
  rw [statements?_toDot (fits_of_plain hmarks hplain), statements, hnodes,
    meantStatements]

end Plain

/-- The colours of a palette stand in the description of a graph exactly if those of
its nodes are bare words or numerals, and neither of the two colours has one of the
characters that tables are made of. -/
theorem colorsStand_iff (palette : Palette) (graph : Graph) :
    ColorsStand palette graph ↔
      (∀ node ∈ graph.nodes, isPlainColor (palette.colorOf node.cls) = true) ∧
        ∀ cls, ∀ c ∈ (palette.colorOf cls).toList, c ∉ tableMarks := by
  constructor
  · intro h
    refine ⟨fun node hnode => ?_, fun cls => ?_⟩
    · exact (lexStep_behindFill_iff palette node).1 (h.fill node hnode)
    · exact (attributeValue?_behindBackground_iff _ "").1 (h.background cls "")
  · rintro ⟨hplain, hmarks⟩
    exact
      { fill := fun node hnode => (lexStep_behindFill_iff palette node).2 (hplain node hnode)
        background := fun cls label =>
          (attributeValue?_behindBackground_iff _ label).2 (hmarks cls)
        statements := statements?_of_plain hmarks hplain }

/-- Words and a numeral stand in the description of nodes of both classes. -/
theorem colorsStand_iff_wheel :
    ColorsStand ⟨"lightblue", "0.482"⟩ (run [.edge "main" "Engine", .edge "main" "run"]) := by
  refine (colorsStand_iff _ _).2 ⟨by decide +kernel, fun cls c hc hmark => ?_⟩
  have hmarks : ((Palette.colorOf ⟨"lightblue", "0.482"⟩ cls).toList.all fun c =>
      !tableMarks.contains c) = true := by
    cases cls <;> decide +kernel
  have hnot := List.all_eq_true.1 hmarks c hc
  rw [List.contains_iff_mem.2 hmark] at hnot
  cases hnot

/-- A colour that begins with a number sign is no name where nodes are filled. -/
theorem hash_color_no_name :
    ¬ ColorsStand ⟨"#336699", "#ff0000"⟩ (run [.edge "a" "b"]) ∧
      (run [.edge "a" "b"]).nodes = [⟨"a", .methodLike⟩, ⟨"b", .methodLike⟩] ∧
      lexStep (behindFill ⟨"#336699", "#ff0000"⟩ ⟨"a", .methodLike⟩) = none := by
  have hnodes : (run [.edge "a" "b"]).nodes =
      [⟨"a", .methodLike⟩, ⟨"b", .methodLike⟩] := by decide +kernel
  have hnone : lexStep (behindFill ⟨"#336699", "#ff0000"⟩ ⟨"a", .methodLike⟩) = none := by
    decide +kernel
  refine ⟨fun h => ?_, hnodes, hnone⟩
  have hfill := h.fill ⟨"a", .methodLike⟩ (by rw [hnodes]; exact List.mem_cons_self)
  rw [hnone] at hfill
  cases hfill

end JavaSurvey.CallGraph
