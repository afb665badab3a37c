import JavaSurvey.Decimal.Layout
import JavaSurvey.Toml.Text
import JavaSurvey.Toml.Value

/-!
# Writing TOML

A string is written in the kind of quotes that needs the fewest escapes. The order
of preference is: double quotes, single quotes, three double quotes, three single
quotes; where each of them would need escapes, double quotes are used, three of
them if the text has several lines.
-/

namespace JavaSurvey.Toml

/-- The kinds of quotes. -/
inductive Quotes where
  | basic
  | literal
  | multiBasic
  | multiLiteral
deriving DecidableEq, Repr

/-- The length of the longest row of a character, where `run` of them stand in front
and `longest` is the longest row so far. -/
def longestRunFrom (c : Char) (run longest : Nat) : List Char → Nat
  | [] => max run longest
  | d :: rest =>
    if d == c then longestRunFrom c (run + 1) longest rest
    else longestRunFrom c 0 (max run longest) rest

/-- The length of the longest row of a character. -/
def longestRun (c : Char) (text : List Char) : Nat :=
  longestRunFrom c 0 0 text

/-- Whether a text has characters that only escapes can give. -/
def needsEscapes (text : List Char) : Bool :=
  text.any fun c => c != '\n' && isControl c

/-- The quotes for a text. -/
def Quotes.choose (text : List Char) : Quotes :=
  let lines := text.contains '\n'
  let escapes := needsEscapes text
  let backslash := text.contains '\\'
  if !escapes && !backslash && longestRun '"' text = 0 && !lines then .basic
  else if !escapes && longestRun '\'' text = 0 && !lines then .literal
  else if !escapes && !backslash && longestRun '"' text ≤ 2 then .multiBasic
  else if !escapes && longestRun '\'' text ≤ 2 then .multiLiteral
  else if lines then .multiBasic
  else .basic

/-- A hexadecimal digit. -/
def hexDigit (n : Nat) : Char :=
  if n < 10 then Char.ofNat ('0'.toNat + n) else Char.ofNat ('A'.toNat + (n - 10))

/-- The escape that gives a character below 256 by its code point. -/
def codePointEscape (c : Char) : List Char :=
  ['\\', 'u', '0', '0', hexDigit (c.toNat / 16), hexDigit (c.toNat % 16)]

/-- A character between double quotes, quotes aside. Ends of lines stand for
themselves between three quotes. -/
def escapeChar (lines : Bool) (c : Char) : List Char :=
  if c == '\x08' then ['\\', 'b']
  else if c == '\t' then ['\\', 't']
  else if c == '\n' then if lines then ['\n'] else ['\\', 'n']
  else if c == '\x0c' then ['\\', 'f']
  else if c == '\r' then ['\\', 'r']
  else if c == '\\' then ['\\', '\\']
  else if isControl c then codePointEscape c
  else [c]

/-- A text between double quotes. At most `allowed` quotes in a row stand for
themselves, of which `run` stand in front. -/
def escape (lines : Bool) (allowed run : Nat) : List Char → List Char
  | [] => []
  | '"' :: rest =>
    if run < allowed then '"' :: escape lines allowed (run + 1) rest
    else '\\' :: '"' :: escape lines allowed 0 rest
  | c :: rest => escapeChar lines c ++ escape lines allowed 0 rest

/-- Quotes around a text. The text begins on a line of its own if it has several. -/
def enclose (quotes : String) (text body : List Char) : String :=
  let start := if text.contains '\n' then "\n" else ""
  quotes ++ start ++ String.ofList body ++ quotes

/-- A text in quotes of a kind. -/
def Quotes.write (quotes : Quotes) (text : List Char) : String :=
  match quotes with
  | .basic => "\"" ++ String.ofList (escape false 0 0 text) ++ "\""
  | .literal => "'" ++ String.ofList text ++ "'"
  | .multiBasic => enclose "\"\"\"" text (escape true 2 0 text)
  | .multiLiteral => enclose "'''" text text

/-- A string. -/
def stringText (text : String) : String :=
  (Quotes.choose text.toList).write text.toList

/-- Floats: never with an exponent, and always with a fraction. -/
def floatLayout : Decimal.Layout where
  positional := fun _ => true
  showFraction := true
  nan := "nan"
  infinity := "inf"
  minusInfinity := "-inf"

/-- A float. -/
def floatText (x : Float) : String :=
  floatLayout.write x

/-- A truth value. -/
def booleanText (value : Bool) : String :=
  if value then "true" else "false"

/-- A natural number, which must not be larger than the largest integer. -/
def naturalText? (n : Nat) : Option String :=
  if (n : Int) ≤ maxInteger then some (String.ofList (Nat.toDigits 10 n)) else none

/-- A section: a header and a line for each key. -/
def sectionText (name : String) (entries : List (String × String)) : String :=
  "[" ++ name ++ "]\n"
    ++ String.join (entries.map fun (key, value) => key ++ " = " ++ value ++ "\n")

end JavaSurvey.Toml
