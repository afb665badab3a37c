import Mathlib.Data.List.TakeWhile

/-!
# Lexemes of the DOT language

Where a lexeme ends depends on the next character only for bare words and
numerals. So a text whose last character can stand in neither gives the same
lexemes whatever follows it, and the lexemes of a long text are those of its
parts, one after the other. `Gives` says this of a part; it is proved for a literal
by reading it alone, and for a text between angle brackets by counting them.

A name is the same whether it is quoted or bare. In a quoted name a backslash
protects a quote and takes away a line end; in front of anything else it stays, and
so does a second backslash.

## Main results

* `readAll_of_gives`: a list is read part by part.
* `takes_lexeme?`: on how much of what follows a lexeme depends.
* `gives_of_closed`: the lexemes of a text that ends where a lexeme ends.
* `gives_markup`: a balanced text between angle brackets is one lexeme.
-/

namespace JavaSurvey.Dot

/-! ## Reading a list to its end -/

section Reading

variable {α β : Type}

/-- Read a list by repeated steps. A step gives what was found and what is left,
and there are at most `fuel` steps. -/
def readWith (step : List α → Option (List β × List α)) :
    Nat → List α → Option (List β)
  | _, [] => some []
  | 0, _ :: _ => none
  | fuel + 1, first :: rest =>
    (step (first :: rest)).bind fun (found, rest) =>
      (readWith step fuel rest).map (found ++ ·)

/-- Read a list to its end, where every step takes something. -/
def readAll (step : List α → Option (List β × List α)) (input : List α) :
    Option (List β) :=
  readWith step input.length input

/-- Whether each step takes something. -/
def Shortens (step : List α → Option (List β × List α)) : Prop :=
  ∀ input found rest, step input = some (found, rest) → rest.length < input.length

variable {step : List α → Option (List β × List α)} {input part other : List α}
  {found more : List β}

theorem readWith_of_step {first : α} {rest left : List α} {fuel : Nat}
    (hstep : step (first :: rest) = some (found, left)) :
    readWith step (fuel + 1) (first :: rest) =
      (readWith step fuel left).map (found ++ ·) := by
  rw [readWith, hstep, Option.bind_some]

/-- More fuel than is needed changes nothing, and the length of the input is
enough. -/
theorem readWith_eq_of_length_le (hstep : Shortens step) {fuel enough : Nat}
    (h : readWith step fuel input = some found) (henough : input.length ≤ enough) :
    readWith step enough input = some found := by
  induction fuel generalizing input found enough with
  | zero =>
      cases input with
      | nil =>
          cases h
          cases enough <;> rfl
      | cons first rest => cases h
  | succ fuel ih =>
      cases input with
      | nil =>
          cases h
          cases enough <;> rfl
      | cons first rest =>
          cases enough with
          | zero => cases henough
          | succ enough =>
              obtain ⟨⟨some, left⟩, hsome, h⟩ := Option.bind_eq_some_iff.1 h
              obtain ⟨others, hothers, rfl⟩ := Option.map_eq_some_iff.1 h
              have hlength := hstep _ _ _ hsome
              rw [List.length_cons] at henough hlength
              rw [readWith_of_step hsome, ih hothers (by omega)]
              rfl

/-- A part of a list from which something is found, whatever follows it. -/
def Gives (step : List α → Option (List β × List α)) (part : List α)
    (found : List β) : Prop :=
  ∀ fuel rest others, readWith step fuel rest = some others →
    ∃ enough, readWith step enough (part ++ rest) = some (found ++ others)

theorem gives_nil : Gives step [] [] :=
  fun fuel _ _ h => ⟨fuel, h⟩

theorem Gives.append (h : Gives step part found) (hother : Gives step other more) :
    Gives step (part ++ other) (found ++ more) := by
  intro fuel rest others hrest
  obtain ⟨enough, henough⟩ := hother fuel rest others hrest
  rw [List.append_assoc, List.append_assoc]
  exact h enough _ _ henough

theorem gives_of_step (hpart : part ≠ [])
    (h : ∀ rest, step (part ++ rest) = some (found, rest)) : Gives step part found := by
  intro fuel rest others hrest
  refine ⟨fuel + 1, ?_⟩
  cases part with
  | nil => exact absurd rfl hpart
  | cons first part =>
      have hstep := h rest
      rw [List.cons_append] at hstep ⊢
      rw [readWith_of_step hstep, hrest]
      rfl

theorem Gives.flatMap {γ : Type} {items : List γ} {parts : γ → List α}
    {results : γ → List β}
    (h : ∀ item ∈ items, Gives step (parts item) (results item)) :
    Gives step (items.flatMap parts) (items.flatMap results) := by
  induction items with
  | nil => exact gives_nil
  | cons item items ih =>
      obtain ⟨hitem, hitems⟩ := List.forall_mem_cons.1 h
      rw [List.flatMap_cons, List.flatMap_cons]
      exact hitem.append (ih hitems)

/-- A list is read that has such a part in front of an end that is read. -/
theorem readAll_of_gives (hstep : Shortens step) (h : Gives step part found)
    {fuel : Nat} (hend : readWith step fuel other = some more) :
    readAll step (part ++ other) = some (found ++ more) := by
  obtain ⟨enough, henough⟩ := h fuel other more hend
  exact readWith_eq_of_length_le hstep henough (Nat.le_refl _)

end Reading

/-! ## Lexemes -/

/-- What the text of a description is made of. -/
inductive Lexeme where
  | keyword (word : String)
  /-- A name, however it is written. -/
  | name (text : String)
  /-- A text between angle brackets. -/
  | markup (text : String)
  | arrow
  /-- One of the marks between names. -/
  | mark (mark : Char)
deriving DecidableEq

/-- White space between lexemes. -/
def isBlank (c : Char) : Bool :=
  c == ' ' || c == '\t' || c == '\n' || c == '\r'

/-- A mark of one character. -/
def isMark (c : Char) : Bool :=
  ['\x7b', '\x7d', '[', ']', '=', ';', ','].contains c

/-- A character that begins a bare word: a letter, a low line, or any character
outside of ASCII. -/
def isWordStart (c : Char) : Bool :=
  c.isAlpha || c == '_' || 128 ≤ c.toNat

/-- A character that continues a bare word. -/
def isWordPart (c : Char) : Bool :=
  isWordStart c || c.isDigit

/-- The words that are no names when they are written bare, in any case. -/
def keywords : List String :=
  ["strict", "graph", "digraph", "node", "edge", "subgraph"]

/-- The lexeme of a bare word. -/
def Lexeme.ofWord (word : List Char) : Lexeme :=
  let lower := String.ofList (word.map Char.toLower)
  if keywords.contains lower then .keyword lower else .name (String.ofList word)

/-- Digits, with or without a point. -/
def unsigned? (text : List Char) : Option (List Char × List Char) :=
  let whole := text.takeWhile Char.isDigit
  match text.dropWhile Char.isDigit with
  | '.' :: rest =>
    let fraction := rest.takeWhile Char.isDigit
    if whole.isEmpty && fraction.isEmpty then none
    else some (whole ++ '.' :: fraction, rest.dropWhile Char.isDigit)
  | rest => if whole.isEmpty then none else some (whole, rest)

/-- A numeral, perhaps behind a minus sign. -/
def numeral? : List Char → Option (List Char × List Char)
  | '-' :: rest => (unsigned? rest).map fun (digits, rest) => ('-' :: digits, rest)
  | text => unsigned? text

/-- What a backslash and the character behind it stand for in a quoted name: a
quote is protected, a line end is left out, and otherwise both stay. -/
def afterBackslash (c : Char) : List Char :=
  if c == '"' then ['"'] else if c == '\n' then [] else ['\\', c]

/-- The text of a quoted name behind its opening quote. -/
def quoted? : List Char → Option (List Char × List Char)
  | [] => none
  | '"' :: rest => some ([], rest)
  | '\\' :: c :: rest =>
    (quoted? rest).map fun (text, rest) => (afterBackslash c ++ text, rest)
  | c :: rest => (quoted? rest).map fun (text, rest) => (c :: text, rest)

/-- The text between angle brackets behind the opening one, while some more of
them are open. -/
def markup? : Nat → List Char → Option (List Char × List Char)
  | _, [] => none
  | depth, '<' :: rest =>
    (markup? (depth + 1) rest).map fun (text, rest) => ('<' :: text, rest)
  | 0, '>' :: rest => some ([], rest)
  | depth + 1, '>' :: rest =>
    (markup? depth rest).map fun (text, rest) => ('>' :: text, rest)
  | depth, c :: rest => (markup? depth rest).map fun (text, rest) => (c :: text, rest)

/-- The lexeme at the front of a text that does not begin with white space. -/
def lexeme? : List Char → Option (Lexeme × List Char)
  | [] => none
  | '"' :: rest =>
    (quoted? rest).map fun (text, rest) => (.name (String.ofList text), rest)
  | '<' :: rest =>
    (markup? 0 rest).map fun (text, rest) => (.markup (String.ofList text), rest)
  | '-' :: '>' :: rest => some (.arrow, rest)
  | c :: rest =>
    if isMark c then some (.mark c, rest)
    else if isWordStart c then
      some (.ofWord (c :: rest.takeWhile isWordPart), rest.dropWhile isWordPart)
    else
      (numeral? (c :: rest)).map fun (text, rest) => (.name (String.ofList text), rest)

/-- A step of cutting a text into lexemes. -/
def lexStep : List Char → Option (List Lexeme × List Char)
  | [] => none
  | c :: rest =>
    if isBlank c then some ([], rest)
    else (lexeme? (c :: rest)).map fun (lexeme, rest) => ([lexeme], rest)

/-! ## What a lexeme takes -/

/-- A character of bare words and numerals. -/
def isBare (c : Char) : Bool :=
  isWordPart c || c == '.' || c == '-'

/-- What a reader takes from a text: something, and what it is does not depend on
what follows. Only where all of it is bare does the next character matter. -/
def Takes {β : Type} (read : List Char → Option (β × List Char)) (text : List Char)
    (found : β) (rest : List Char) : Prop :=
  ∃ taken, taken ≠ [] ∧ text = taken ++ rest ∧ ∀ more,
    ((∀ c ∈ taken, isBare c = true) → more.head? = rest.head?) →
      read (taken ++ more) = some (found, more)

theorem takes_quoted? {text found rest : List Char}
    (h : quoted? text = some (found, rest)) :
    ∃ taken, taken ≠ [] ∧ text = taken ++ rest ∧
      ∀ more, quoted? (taken ++ more) = some (found, more) := by
  fun_induction quoted? text generalizing found with
  | case1 => cases h
  | case2 rest =>
      cases h
      exact ⟨['"'], List.cons_ne_nil _ _, rfl, fun _ => rfl⟩
  | case3 c text ih =>
      obtain ⟨⟨inner, _⟩, hinner, heq⟩ := Option.map_eq_some_iff.1 h
      cases heq
      obtain ⟨taken, hne, rfl, htaken⟩ := ih hinner
      refine ⟨'\\' :: c :: taken, List.cons_ne_nil _ _, rfl, fun more => ?_⟩
      rw [List.cons_append, List.cons_append, quoted?, htaken]
      rfl
  | case4 c text hquote hbackslash ih =>
      obtain ⟨⟨inner, _⟩, hinner, heq⟩ := Option.map_eq_some_iff.1 h
      cases heq
      obtain ⟨taken, hne, rfl, htaken⟩ := ih hinner
      obtain ⟨first, taken, rfl⟩ := List.exists_cons_of_ne_nil hne
      refine ⟨c :: first :: taken, List.cons_ne_nil _ _, rfl, fun more => ?_⟩
      rw [List.cons_append, quoted?, htaken]
      · rfl
      · exact hquote
      · intro _ _ hc _
        exact hbackslash first (taken ++ rest) hc rfl

theorem takes_markup? {depth : Nat} {text found rest : List Char}
    (h : markup? depth text = some (found, rest)) :
    ∃ taken, taken ≠ [] ∧ text = taken ++ rest ∧
      ∀ more, markup? depth (taken ++ more) = some (found, more) := by
  fun_induction markup? depth text generalizing found with
  | case1 => cases h
  | case2 depth text ih =>
      obtain ⟨⟨inner, _⟩, hinner, heq⟩ := Option.map_eq_some_iff.1 h
      cases heq
      obtain ⟨taken, _, rfl, htaken⟩ := ih hinner
      refine ⟨'<' :: taken, List.cons_ne_nil _ _, rfl, fun more => ?_⟩
      rw [List.cons_append, markup?, htaken]
      rfl
  | case3 text =>
      cases h
      exact ⟨['>'], List.cons_ne_nil _ _, rfl, fun _ => rfl⟩
  | case4 depth text ih =>
      obtain ⟨⟨inner, _⟩, hinner, heq⟩ := Option.map_eq_some_iff.1 h
      cases heq
      obtain ⟨taken, _, rfl, htaken⟩ := ih hinner
      refine ⟨'>' :: taken, List.cons_ne_nil _ _, rfl, fun more => ?_⟩
      rw [List.cons_append, markup?, htaken]
      rfl
  | case5 depth c text hopen hend hclose ih =>
      obtain ⟨⟨inner, _⟩, hinner, heq⟩ := Option.map_eq_some_iff.1 h
      cases heq
      obtain ⟨taken, _, rfl, htaken⟩ := ih hinner
      refine ⟨c :: taken, List.cons_ne_nil _ _, rfl, fun more => ?_⟩
      rw [List.cons_append, markup?, htaken]
      · rfl
      · exact hopen
      · exact hend
      · exact hclose

/-- A run of characters ends where the same character follows as before. -/
theorem span_append {p : Char → Bool} {text more : List Char}
    (h : more.head? = (text.dropWhile p).head?) :
    (text.takeWhile p ++ more).takeWhile p = text.takeWhile p ∧
      (text.takeWhile p ++ more).dropWhile p = more := by
  induction text with
  | nil =>
      have hnil := List.head?_eq_none_iff.1 h
      subst hnil
      exact ⟨rfl, rfl⟩
  | cons c text ih =>
      by_cases hc : p c = true
      · rw [List.dropWhile_cons_of_pos hc] at h
        obtain ⟨htake, hdrop⟩ := ih h
        rw [List.takeWhile_cons_of_pos hc, List.cons_append,
          List.takeWhile_cons_of_pos hc, List.dropWhile_cons_of_pos hc, htake, hdrop]
        exact ⟨rfl, rfl⟩
      · rw [List.dropWhile_cons_of_neg hc] at h
        obtain ⟨more, rfl⟩ := List.head?_eq_some_iff.1 h
        rw [List.takeWhile_cons_of_neg hc, List.nil_append,
          List.takeWhile_cons_of_neg hc, List.dropWhile_cons_of_neg hc]
        exact ⟨rfl, rfl⟩

theorem isBare_of_isDigit {c : Char} (h : c.isDigit = true) : isBare c = true := by
  simp [isBare, isWordPart, h]

theorem takes_unsigned? {text found rest : List Char}
    (h : unsigned? text = some (found, rest)) :
    (∀ c ∈ found, isBare c = true) ∧ found ≠ [] ∧ text = found ++ rest ∧
      ∀ more, more.head? = rest.head? →
        unsigned? (found ++ more) = some (found, more) := by
  have hdigits : ∀ {text : List Char}, ∀ c ∈ text.takeWhile Char.isDigit,
      isBare c = true :=
    fun c hc => isBare_of_isDigit ((List.mem_takeWhile_imp hc))
  rw [unsigned?] at h
  dsimp only at h
  split at h
  next left hleft =>
    split at h
    next => cases h
    next hsome =>
      cases h
      have hsplit : text = text.takeWhile Char.isDigit ++ '.' :: left :=
        hleft ▸ List.takeWhile_append_dropWhile.symm
      refine ⟨?_, by simp, ?_, fun more hmore => ?_⟩
      · simp only [List.forall_mem_append, List.forall_mem_cons]
        exact ⟨hdigits, rfl, hdigits⟩
      · rw [List.append_assoc, List.cons_append, List.takeWhile_append_dropWhile]
        exact hsplit
      · obtain ⟨hfraction, hrest⟩ := span_append hmore
        have hdot : ('.' :: (left.takeWhile Char.isDigit ++ more)).head? =
            (text.dropWhile Char.isDigit).head? := by
          rw [hleft]
          rfl
        obtain ⟨hwhole, hpoint⟩ := span_append hdot
        rw [unsigned?, List.append_assoc, List.cons_append]
        simp only [hwhole, hpoint, hfraction, hrest, if_neg hsome]
  next hpoint =>
    split at h
    next => cases h
    next hsome =>
      cases h
      refine ⟨hdigits, ?_, List.takeWhile_append_dropWhile.symm, fun more hmore => ?_⟩
      · simpa using hsome
      · obtain ⟨hwhole, hrest⟩ := span_append hmore
        rw [unsigned?]
        simp only [hwhole, hrest]
        split
        next left =>
          obtain ⟨left, hleft⟩ := List.head?_eq_some_iff.1 hmore.symm
          exact absurd hleft (hpoint left)
        next => rw [if_neg hsome]

theorem takes_numeral? {text found rest : List Char}
    (h : numeral? text = some (found, rest)) :
    (∀ c ∈ found, isBare c = true) ∧ found ≠ [] ∧ text = found ++ rest ∧
      ∀ more, more.head? = rest.head? →
        numeral? (found ++ more) = some (found, more) := by
  rw [numeral?.eq_def] at h
  split at h
  next text =>
    obtain ⟨⟨digits, _⟩, hdigits, heq⟩ := Option.map_eq_some_iff.1 h
    cases heq
    obtain ⟨hbare, _, rfl, hread⟩ := takes_unsigned? hdigits
    refine ⟨List.forall_mem_cons.2 ⟨rfl, hbare⟩, List.cons_ne_nil _ _, rfl,
      fun more hmore => ?_⟩
    rw [List.cons_append, numeral?, hread more hmore]
    rfl
  next hsign =>
    obtain ⟨hbare, hne, rfl, hread⟩ := takes_unsigned? h
    refine ⟨hbare, hne, rfl, fun more hmore => ?_⟩
    obtain ⟨first, found, rfl⟩ := List.exists_cons_of_ne_nil hne
    rw [← hread more hmore, List.cons_append, numeral?]
    intro left hleft
    cases hleft
    exact hsign (found ++ rest) rfl

/-- A lexeme that begins with neither a quote nor a bracket nor an arrow. -/
theorem lexeme?_cons {c : Char} {text : List Char} (hquote : c ≠ '"') (hopen : c ≠ '<')
    (harrow : c = '-' → text.head? ≠ some '>') :
    lexeme? (c :: text) =
      if isMark c then some (.mark c, text)
      else if isWordStart c then
        some (.ofWord (c :: text.takeWhile isWordPart), text.dropWhile isWordPart)
      else (numeral? (c :: text)).map fun (text, rest) =>
        (.name (String.ofList text), rest) := by
  rw [lexeme?]
  · exact hquote
  · exact hopen
  · rintro rest hc rfl
    exact harrow hc rfl

/-- What a lexeme takes does not depend on what follows, but for the character
behind a bare word or a numeral. -/
theorem takes_lexeme? {text rest : List Char} {lexeme : Lexeme}
    (h : lexeme? text = some (lexeme, rest)) : Takes lexeme? text lexeme rest := by
  rw [lexeme?.eq_def] at h
  split at h
  next => cases h
  next text =>
    obtain ⟨⟨name, _⟩, hname, heq⟩ := Option.map_eq_some_iff.1 h
    cases heq
    obtain ⟨taken, _, rfl, hread⟩ := takes_quoted? hname
    refine ⟨'"' :: taken, List.cons_ne_nil _ _, rfl, fun more _ => ?_⟩
    rw [List.cons_append, lexeme?, hread]
    rfl
  next text =>
    obtain ⟨⟨inner, _⟩, hinner, heq⟩ := Option.map_eq_some_iff.1 h
    cases heq
    obtain ⟨taken, _, rfl, hread⟩ := takes_markup? hinner
    refine ⟨'<' :: taken, List.cons_ne_nil _ _, rfl, fun more _ => ?_⟩
    rw [List.cons_append, lexeme?, hread]
    rfl
  next text =>
    cases h
    exact ⟨['-', '>'], List.cons_ne_nil _ _, rfl, fun _ _ => rfl⟩
  next c text hquote hopen harrow =>
    have hnext : c = '-' → text.head? ≠ some '>' := by
      intro hc hhead
      obtain ⟨left, hleft⟩ := List.head?_eq_some_iff.1 hhead
      exact harrow left hc hleft
    split at h
    next hmark =>
      cases h
      refine ⟨[c], List.cons_ne_nil _ _, rfl, fun more _ => ?_⟩
      have hc : c ≠ '-' := by
        rintro rfl
        exact absurd hmark (by decide)
      rw [List.singleton_append, lexeme?_cons hquote hopen fun h => absurd h hc,
        if_pos hmark]
    next hmark =>
      split at h
      next hword =>
        cases h
        have hc : c ≠ '-' := by
          rintro rfl
          exact absurd hword (by decide)
        refine ⟨c :: text.takeWhile isWordPart, List.cons_ne_nil _ _, ?_,
          fun more hmore => ?_⟩
        · rw [List.cons_append, List.takeWhile_append_dropWhile]
        · have hbare : ∀ other ∈ c :: text.takeWhile isWordPart,
              isBare other = true := by
            refine List.forall_mem_cons.2 ⟨by simp [isBare, isWordPart, hword], ?_⟩
            intro other hother
            simp [isBare, List.mem_takeWhile_imp hother]
          obtain ⟨htake, hdrop⟩ := span_append (hmore hbare)
          rw [List.cons_append, lexeme?_cons hquote hopen fun h => absurd h hc,
            if_neg hmark, if_pos hword, htake, hdrop]
      next hword =>
        obtain ⟨⟨found, _⟩, hfound, heq⟩ := Option.map_eq_some_iff.1 h
        cases heq
        obtain ⟨hbare, hne, hsplit, hread⟩ := takes_numeral? hfound
        obtain ⟨first, found, rfl⟩ := List.exists_cons_of_ne_nil hne
        cases hsplit
        refine ⟨c :: found, hne, rfl, fun more hmore => ?_⟩
        have hhead : c = '-' → (found ++ more).head? ≠ some '>' := by
          intro hc
          rw [List.head?_append, hmore hbare, ← List.head?_append]
          exact hnext hc
        have hnumeral := hread more (hmore hbare)
        rw [List.cons_append] at hnumeral ⊢
        rw [lexeme?_cons hquote hopen hhead, if_neg hmark, if_neg hword, hnumeral]
        rfl

/-! ## Texts that end where a lexeme ends -/

theorem shortens_lexStep : Shortens lexStep := by
  intro text found rest h
  cases text with
  | nil => cases h
  | cons c text =>
      rw [lexStep] at h
      split at h
      next =>
        cases h
        exact Nat.lt_succ_self _
      next =>
        obtain ⟨⟨lexeme, _⟩, hlexeme, heq⟩ := Option.map_eq_some_iff.1 h
        cases heq
        obtain ⟨taken, hne, htaken, _⟩ := takes_lexeme? hlexeme
        rw [htaken, List.length_append]
        have := List.length_pos_iff.2 hne
        omega

theorem lexStep_append {text rest : List Char} {found : List Lexeme}
    (h : lexStep text = some (found, rest))
    (hend : rest = [] → ∃ c ∈ text, isBare c = false) (more : List Char) :
    (∃ taken, taken ≠ [] ∧ text = taken ++ rest) ∧
      lexStep (text ++ more) = some (found, rest ++ more) := by
  cases text with
  | nil => cases h
  | cons c text =>
      rw [lexStep] at h
      split at h
      next hblank =>
        cases h
        refine ⟨⟨[c], List.cons_ne_nil _ _, rfl⟩, ?_⟩
        rw [List.cons_append, lexStep, if_pos hblank]
      next hblank =>
        obtain ⟨⟨lexeme, _⟩, hlexeme, heq⟩ := Option.map_eq_some_iff.1 h
        cases heq
        obtain ⟨taken, hne, htaken, hread⟩ := takes_lexeme? hlexeme
        refine ⟨⟨taken, hne, htaken⟩, ?_⟩
        have hmore : lexeme? (taken ++ (rest ++ more)) =
            some (lexeme, rest ++ more) := by
          refine hread _ fun hbare => ?_
          cases rest with
          | cons first rest => rfl
          | nil =>
              obtain ⟨other, hother, hnot⟩ := hend rfl
              rw [htaken, List.append_nil] at hother
              rw [hbare other hother] at hnot
              cases hnot
        rw [← List.append_assoc, ← htaken] at hmore
        rw [List.cons_append] at hmore ⊢
        rw [lexStep, if_neg hblank, hmore]
        rfl

/-- Whether the last character of a text, if there is one, is neither part of a
word nor of a numeral. -/
def isClosed (text : List Char) : Bool :=
  text.getLast?.all fun c => !isBare c

theorem isClosed_iff {text : List Char} :
    isClosed text = true ↔ ∀ c ∈ text.getLast?, isBare c = false := by
  simp [isClosed, Option.all_eq_true]

/-- A closed text gives its lexemes whatever follows. -/
theorem gives_of_closed (fuel : Nat) {text : List Char} {found : List Lexeme}
    (hclosed : isClosed text = true)
    (h : readWith lexStep fuel text = some found) : Gives lexStep text found := by
  induction fuel generalizing text found with
  | zero =>
      cases text with
      | nil =>
          cases h
          exact gives_nil
      | cons c text => cases h
  | succ fuel ih =>
      cases text with
      | nil =>
          cases h
          exact gives_nil
      | cons c text =>
          obtain ⟨⟨first, rest⟩, hfirst, h⟩ := Option.bind_eq_some_iff.1 h
          obtain ⟨others, hothers, rfl⟩ := Option.map_eq_some_iff.1 h
          have hlast := isClosed_iff.1 hclosed
          have hend : rest = [] → ∃ other ∈ c :: text, isBare other = false := by
            intro _
            have hsome := List.getLast?_eq_some_getLast (List.cons_ne_nil c text)
            exact ⟨_, List.getLast_mem _, hlast _ hsome⟩
          have hlocal := lexStep_append hfirst hend
          obtain ⟨taken, _, htaken⟩ := (hlocal []).1
          have hrest : Gives lexStep rest others := by
            refine ih (isClosed_iff.2 ?_) hothers
            intro last hmem
            refine hlast last ?_
            rw [htaken, List.getLast?_append, hmem]
            rfl
          intro fuel more lexemes hmore
          obtain ⟨enough, henough⟩ := hrest fuel more lexemes hmore
          refine ⟨enough + 1, ?_⟩
          have hstep := (hlocal more).2
          rw [List.cons_append] at hstep ⊢
          rw [readWith_of_step hstep, henough, List.append_assoc]
          rfl

/-! ## Angle brackets -/

/-- How many angle brackets are open behind a text in front of which some are
open; nothing if the text closes one more than that. -/
def nesting : Nat → List Char → Option Nat
  | depth, [] => some depth
  | depth, '<' :: rest => nesting (depth + 1) rest
  | 0, '>' :: _ => none
  | depth + 1, '>' :: rest => nesting depth rest
  | depth, _ :: rest => nesting depth rest

theorem markup?_append {depth after : Nat} {text : List Char}
    (h : nesting depth text = some after) (more : List Char) :
    markup? depth (text ++ more) =
      (markup? after more).map fun (inner, rest) => (text ++ inner, rest) := by
  fun_induction nesting depth text with
  | case1 depth =>
      cases h
      simp
  | case2 depth text ih =>
      rw [List.cons_append, markup?, ih h, Option.map_map]
      rfl
  | case3 => cases h
  | case4 depth text ih =>
      rw [List.cons_append, markup?, ih h, Option.map_map]
      rfl
  | case5 depth c text hopen hend hclose ih =>
      rw [List.cons_append, markup?, ih h, Option.map_map]
      · rfl
      · exact hopen
      · exact hend
      · exact hclose

theorem nesting_append {depth between after : Nat} {text more : List Char}
    (h : nesting depth text = some between)
    (hmore : nesting between more = some after) :
    nesting depth (text ++ more) = some after := by
  fun_induction nesting depth text with
  | case1 depth =>
      cases h
      exact hmore
  | case2 depth text ih =>
      rw [List.cons_append, nesting]
      exact ih h
  | case3 => cases h
  | case4 depth text ih =>
      rw [List.cons_append, nesting]
      exact ih h
  | case5 depth c text hopen hend hclose ih =>
      rw [List.cons_append, nesting]
      · exact ih h
      · exact hopen
      · exact hend
      · exact hclose

theorem nesting_of_forall {text : List Char} (h : ∀ c ∈ text, c ≠ '<' ∧ c ≠ '>')
    (depth : Nat) : nesting depth text = some depth := by
  induction text with
  | nil => rfl
  | cons c text ih =>
      obtain ⟨⟨hopen, hclose⟩, htext⟩ := List.forall_mem_cons.1 h
      rw [nesting]
      · exact ih htext
      · exact hopen
      · exact fun _ => hclose
      · exact fun _ _ => hclose

/-- A balanced text between angle brackets is one lexeme. -/
theorem gives_markup {text : List Char} (h : nesting 0 text = some 0) :
    Gives lexStep ('<' :: (text ++ ['>'])) [.markup (String.ofList text)] := by
  refine gives_of_step (List.cons_ne_nil _ _) fun rest => ?_
  have hmarkup : markup? 0 (text ++ '>' :: rest) = some (text, rest) := by
    rw [markup?_append h, markup?]
    simp
  rw [List.cons_append, List.append_assoc, List.singleton_append, lexStep,
    if_neg (by decide), lexeme?, hmarkup]
  rfl

end JavaSurvey.Dot
