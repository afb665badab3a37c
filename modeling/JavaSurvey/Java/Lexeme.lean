import JavaSurvey.Text.Identifier

/-!
# Lexemes of Java source text

Source text is cut from left to right into lexemes: blanks, comments, words,
literals and marks. Each scanner below answers one question, how many characters
of the remaining text its lexeme takes, and the cutter takes that many off the
front. So no character is lost or invented: the lexemes put end to end are the
text again.

Three points are worth knowing.

* Words are not divided into keywords and names here. Which words are keywords
  depends on what may stand at their place, and only the grammar knows that.
* `>` is always a mark of its own, so that `List<List<T>>` closes two brackets.
  The shifts `>>` and `>>>` are put together again by the grammar, from marks
  without anything between them.
* A string may contain embedded expressions between `\{` and `}`. It is cut into
  a head up to the first `\{`, a middle part from each `}` to the next `\{`, and
  a tail from the last `}`. While an embedded expression is open the cutter
  counts braces, to tell its end from the end of a block inside it.
-/

namespace JavaSurvey.Java

/-- What a lexeme is. -/
inductive Shape where
  /-- Spaces, tabulators and line ends. -/
  | blank
  | comment
  /-- A keyword or a name. -/
  | word
  | number
  | character
  /-- A whole string without embedded expressions. -/
  | string
  | templateHead
  | templateMiddle
  | templateTail
  /-- An operator, bracket or separator. -/
  | mark
  /-- A character that starts no lexeme, or a literal or comment without end. -/
  | unreadable
deriving DecidableEq, Repr

/-- A stretch of source text of one shape. -/
structure Lexeme where
  shape : Shape
  text : String
deriving DecidableEq, Repr

/-! ## Runs of characters -/

/-- The number of leading characters that satisfy `accept`, added to `count`. -/
def runLengthFrom (accept : Char → Bool) (count : Nat) : List Char → Nat
  | [] => count
  | c :: rest => if accept c then runLengthFrom accept (count + 1) rest else count

/-- The number of leading characters that satisfy `accept`. -/
def runLength (accept : Char → Bool) (text : List Char) : Nat :=
  runLengthFrom accept 0 text

/-- A blank between lexemes: space, tabulators, line feed, form feed, carriage return. -/
def isBlank (c : Char) : Bool :=
  c == ' ' || (9 ≤ c.toNat && c.toNat ≤ 13)

/-- A character that starts a word. -/
def isWordStart (c : Char) : Bool :=
  Text.isIdentifierStart c || c == '_' || c == '$'

/-- A character that continues a word. -/
def isWordPart (c : Char) : Bool :=
  Text.isIdentifierPart c || c == '$' || c == '¢'

/-- The length of a word, zero if none starts here. -/
def wordLength : List Char → Nat
  | c :: rest => if isWordStart c then 1 + runLength isWordPart rest else 0
  | [] => 0

/-! ## Numbers

Every scanner gives the length of the longest number of its form, zero if there
is none; a number is the longest of all forms.
-/

/-- Digits in groups joined by low lines: one low line between groups, or any
number of them if `manyBars`. `count` characters are read and `best` of them end
on a digit. -/
def groupedLengthFrom (digit : Char → Bool) (manyBars : Bool) (count best : Nat) :
    List Char → Nat
  | [] => best
  | c :: rest =>
    if digit c then groupedLengthFrom digit manyBars (count + 1) (count + 1) rest
    else if c == '_' && 0 < best && (manyBars || count == best) then
      groupedLengthFrom digit manyBars (count + 1) best rest
    else best

/-- Groups of digits joined by single low lines. -/
def groupedLength (digit : Char → Bool) (text : List Char) : Nat :=
  groupedLengthFrom digit false 0 0 text

/-- A hexadecimal digit. -/
def isHexDigit (c : Char) : Bool :=
  c.isDigit || ('a' ≤ c && c ≤ 'f') || ('A' ≤ c && c ≤ 'F')

/-- An octal digit. -/
def isOctalDigit (c : Char) : Bool :=
  '0' ≤ c && c ≤ '7'

/-- A binary digit. -/
def isBinaryDigit (c : Char) : Bool :=
  c == '0' || c == '1'

/-- Extend a match of length `length` by an optional letter out of `letters`. -/
def withOptional (letters : List Char) (text : List Char) (length : Nat) : Nat :=
  match text.drop length with
  | c :: _ => if letters.contains c then length + 1 else length
  | [] => length

/-- A whole decimal number: zero, or digits that do not start with zero. Directly
after the first digit at most one low line may stand. -/
def decimalLength : List Char → Nat
  | '0' :: _ => 1
  | c :: rest =>
    if c.isDigit then
      let plain := groupedLengthFrom Char.isDigit true 0 0 rest
      let barred :=
        match rest with
        | '_' :: more =>
          let length := groupedLengthFrom Char.isDigit true 0 0 more
          if length == 0 then 0 else length + 1
        | _ => 0
      1 + max plain barred
    else 0
  | [] => 0

/-- Extend a match of length `length` by an optional exponent. -/
def withExponent (letters : List Char) (digits : List Char → Nat) (text : List Char)
    (length : Nat) : Nat :=
  match text.drop length with
  | c :: rest =>
    if letters.contains c then
      let signed :=
        match rest with
        | '+' :: _ => 1
        | '-' :: _ => 1
        | _ => 0
      let power := digits (rest.drop signed)
      if power == 0 then length else length + 1 + signed + power
    else length
  | [] => length

/-- A decimal exponent. -/
def withDecimalExponent (text : List Char) (length : Nat) : Nat :=
  withExponent ['e', 'E'] (groupedLength Char.isDigit) text length

/-- A match that must not be empty to be extended. -/
def extend (length : Nat) (more : Nat → Nat) : Nat :=
  if length == 0 then 0 else more length

/-- A decimal integer. -/
def decimalIntegerLength (text : List Char) : Nat :=
  extend (decimalLength text) (withOptional ['l', 'L'] text)

/-- An integer with a two-character mark of its radix, such as `0x`. -/
def radixIntegerLength (radix : List Char) (digit : Char → Bool) (text : List Char) : Nat :=
  match text with
  | '0' :: c :: rest =>
    if radix.contains c then
      extend (groupedLength digit rest) fun length => withOptional ['l', 'L'] text (length + 2)
    else 0
  | _ => 0

/-- An octal integer whose only mark is the leading zero. -/
def zeroIntegerLength (text : List Char) : Nat :=
  match text with
  | '0' :: rest =>
    extend (groupedLength isOctalDigit rest) fun length => withOptional ['l', 'L'] text (length + 1)
  | _ => 0

/-- The letters that mark a number as a fraction. -/
def fractionSuffix : List Char :=
  ['f', 'F', 'd', 'D']

/-- Digits, a point, and optionally more digits and an exponent. -/
def pointFractionLength (text : List Char) : Nat :=
  extend (groupedLength Char.isDigit text) fun whole =>
    match text.drop whole with
    | '.' :: rest =>
      withOptional fractionSuffix text
        (withDecimalExponent text (whole + 1 + groupedLength Char.isDigit rest))
    | _ => 0

/-- A point, digits, and optionally an exponent. -/
def leadingPointLength (text : List Char) : Nat :=
  match text with
  | '.' :: rest =>
    extend (groupedLength Char.isDigit rest) fun digits =>
      withOptional fractionSuffix text (withDecimalExponent text (digits + 1))
  | _ => 0

/-- A whole number that an exponent or a letter makes a fraction. -/
def wholeFractionLength (text : List Char) : Nat :=
  extend (decimalLength text) fun whole =>
    let powered := withDecimalExponent text whole
    let suffixed := withOptional fractionSuffix text powered
    if suffixed == whole then 0 else suffixed

/-- A hexadecimal number with an optional point and a binary exponent. -/
def hexFractionLength (text : List Char) : Nat :=
  match text with
  | '0' :: c :: rest =>
    if c == 'x' || c == 'X' then
      let whole := groupedLength isHexDigit rest
      let digits :=
        match rest.drop whole with
        | '.' :: more =>
          let part := groupedLength isHexDigit more
          if whole == 0 && part == 0 then 0 else whole + 1 + part
        | _ => whole
      extend digits fun digits =>
        let mantissa := digits + 2
        let powered := withExponent ['p', 'P'] decimalLength text mantissa
        if powered == mantissa then mantissa else withOptional fractionSuffix text powered
    else 0
  | _ => 0

/-- The length of a number, zero if none starts here. -/
def numberLength (text : List Char) : Nat :=
  [decimalIntegerLength text,
    radixIntegerLength ['x', 'X'] isHexDigit text,
    radixIntegerLength ['o', 'O'] isOctalDigit text,
    radixIntegerLength ['b', 'B'] isBinaryDigit text,
    zeroIntegerLength text,
    pointFractionLength text,
    leadingPointLength text,
    wholeFractionLength text,
    hexFractionLength text].foldl max 0

/-! ## Quoted literals -/

/-- The rest of a character literal after its opening quote: at least one
character, where a backslash takes the next one with it. -/
def characterRest (count : Nat) : List Char → Option Nat
  | '\'' :: _ => if count == 0 then none else some (count + 1)
  | '\\' :: _ :: rest => characterRest (count + 2) rest
  | '\\' :: [] => none
  | '\n' :: _ => none
  | _ :: rest => characterRest (count + 1) rest
  | [] => none

/-- How a stretch of string text ends: with its closing quote, or where an
embedded expression starts. -/
inductive StringEnd where
  | closed
  | expression
deriving DecidableEq, Repr

/-- Whether `{`, hexadecimal digits and `}` stand here. -/
def startsBracedHex : List Char → Bool
  | '{' :: rest =>
    let digits := runLength isHexDigit rest
    digits != 0 && (rest.drop digits).head? == some '}'
  | _ => false

/-- Whether what follows a backslash completes an escape. -/
def startsEscape : List Char → Bool
  | [] => false
  | 'x' :: rest => 2 ≤ runLength isHexDigit rest
  | 'u' :: rest => 4 ≤ runLength isHexDigit rest || startsBracedHex rest
  | _ :: _ => true

/-- The rest of a plain string: up to the next quote, line ends included. -/
def stringRest (count : Nat) : List Char → Option (Nat × StringEnd)
  | '"' :: _ => some (count + 1, .closed)
  | '\\' :: '{' :: _ => some (count + 2, .expression)
  | '\\' :: c :: rest => if startsEscape (c :: rest) then stringRest (count + 2) rest else none
  | '\\' :: [] => none
  | _ :: rest => stringRest (count + 1) rest
  | [] => none

/-- The rest of a text block: up to three quotes in a row. -/
def textBlockRest (count : Nat) : List Char → Option (Nat × StringEnd)
  | '"' :: '"' :: '"' :: _ => some (count + 3, .closed)
  | '\\' :: '{' :: _ => some (count + 2, .expression)
  | '\\' :: _ :: rest => textBlockRest (count + 2) rest
  | '\\' :: [] => none
  | _ :: rest => textBlockRest (count + 1) rest
  | [] => none

/-- An embedded expression that is still open: the kind of string around it, and
the number of braces opened inside it. -/
structure Template where
  textBlock : Bool
  braces : Nat
deriving DecidableEq, Repr

/-! ## Comments and marks -/

/-- The rest of a block comment after `/*`. -/
def blockCommentRest (count : Nat) : List Char → Option Nat
  | '*' :: '/' :: _ => some (count + 2)
  | _ :: rest => blockCommentRest (count + 1) rest
  | [] => none

/-- The marks, each before every mark it starts with. -/
def marks : List String :=
  ["non-sealed", "@interface", ">>>=", ">>=", ">=", ">", "<<=", "<<", "<=", "<", "...",
    "->", "--", "-=", "-", "++", "+=", "+", "*=", "*", "/=", "/", "%=", "%", "==", "=",
    "!=", "!", "&&", "&=", "&", "||", "|=", "|", "^=", "^", "~", "?", "::", ":", ";", ",",
    ".", "(", ")", "[", "]", "\x7b", "\x7d", "@"]

/-- The length of a mark, zero if none starts here. -/
def markLength (text : List Char) : Nat :=
  match marks.find? fun mark => mark.toList.isPrefixOf text with
  | some mark => mark.length
  | none => 0

/-! ## Cutting -/

/-- The outcome of looking at the front of the text: a shape, a length, and the
embedded expressions that are open afterwards. -/
structure Cut where
  shape : Shape
  length : Nat
  templates : List Template

/-- The cut of string text whose first `opening` characters are read already. -/
def cutString (textBlock : Bool) (opening : Nat) (text : List Char) (whole started : Shape)
    (templates : List Template) : Cut :=
  let rest := if textBlock then textBlockRest else stringRest
  match rest opening (text.drop opening) with
  | some (length, .closed) => ⟨whole, length, templates⟩
  | some (length, .expression) => ⟨started, length, ⟨textBlock, 0⟩ :: templates⟩
  | none => ⟨.unreadable, 1, templates⟩

/-- Count the braces of the innermost embedded expression. -/
def countBrace (opens : Bool) : List Template → List Template
  | [] => []
  | template :: outer =>
    { template with braces := if opens then template.braces + 1 else template.braces - 1 } :: outer

/-- What stands at the front of the text while the embedded expressions
`templates` are open. -/
def cut (templates : List Template) (text : List Char) : Cut :=
  match text with
  | [] => ⟨.blank, 0, templates⟩
  | '/' :: '/' :: rest => ⟨.comment, 2 + runLength (· != '\n') rest, templates⟩
  | '/' :: '*' :: rest =>
    match blockCommentRest 2 rest with
    | some length => ⟨.comment, length, templates⟩
    | none => ⟨.unreadable, 1, templates⟩
  | '\'' :: rest =>
    match characterRest 0 rest with
    | some length => ⟨.character, 1 + length, templates⟩
    | none => ⟨.unreadable, 1, templates⟩
  | '"' :: '"' :: '"' :: _ => cutString true 3 text .string .templateHead templates
  | '"' :: _ => cutString false 1 text .string .templateHead templates
  | c :: _ =>
    if isBlank c then ⟨.blank, runLength isBlank text, templates⟩
    else if c == '}' then
      match templates with
      | ⟨textBlock, 0⟩ :: outer => cutString textBlock 1 text .templateTail .templateMiddle outer
      | _ => ⟨.mark, 1, countBrace false templates⟩
    else if c == '{' then ⟨.mark, 1, countBrace true templates⟩
    else
      let number := numberLength text
      let word := wordLength text
      let mark := markLength text
      if number != 0 then ⟨.number, number, templates⟩
      else if word < mark then ⟨.mark, mark, templates⟩
      else if word != 0 then ⟨.word, word, templates⟩
      else ⟨.unreadable, 1, templates⟩

/-- Cut the whole text, behind the lexemes `done` that are cut already. -/
def cutAll (done : Array Lexeme) (templates : List Template) (text : List Char) : Array Lexeme :=
  match text with
  | [] => done
  | c :: rest =>
    let next := cut templates (c :: rest)
    cutAll (done.push ⟨next.shape, String.ofList ((c :: rest).take (next.length - 1 + 1))⟩)
      next.templates ((c :: rest).drop (next.length - 1 + 1))
termination_by text.length
decreasing_by simp only [List.drop_succ_cons, List.length_drop, List.length_cons]; omega

/-- The lexemes of a source text. A byte order mark at its very start is a blank. -/
def lexemes (text : String) : Array Lexeme :=
  match text.toList with
  | '\ufeff' :: rest => cutAll #[⟨.blank, "\ufeff"⟩] [] rest
  | all => cutAll #[] [] all

end JavaSurvey.Java
