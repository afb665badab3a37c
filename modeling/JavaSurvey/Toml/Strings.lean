import JavaSurvey.Text.Digits
import JavaSurvey.Toml.Text

/-!
# Strings of TOML

There are four kinds of strings. Double quotes allow escapes and single quotes do
not; three quotes allow ends of lines, and up to two quotes in a row. Every reader
takes the text behind the opening quotes and gives back the string and what
follows the closing quotes.
-/

namespace JavaSurvey.Toml

export Text (hexValue?)

/-- The number that hexadecimal digits stand for, continuing from `value`. -/
def hexNumber? (value : Nat) : List Char → Option Nat
  | [] => some value
  | c :: rest =>
    match hexValue? c with
    | some digit => hexNumber? (value * 16 + digit) rest
    | none => none

/-- The character with the code point that hexadecimal digits stand for. -/
def codePoint? (digits : List Char) : Option Char :=
  match hexNumber? 0 digits with
  | some code => if code.isValidChar then some (Char.ofNat code) else none
  | none => none

/-- The character behind a backslash, apart from code points. -/
def simpleEscape? (c : Char) : Option Char :=
  if c == '"' || c == '\\' then some c
  else if c == 'b' then some '\x08'
  else if c == 't' then some '\t'
  else if c == 'n' then some '\n'
  else if c == 'f' then some '\x0c'
  else if c == 'r' then some '\r'
  else none

/-- The rest of a string in double quotes; what is read already stands in `done`, in
reverse. -/
def readBasic (done : List Char) : List Char → Option (String × List Char)
  | '"' :: rest => some (String.ofList done.reverse, rest)
  | '\\' :: 'u' :: a :: b :: c :: d :: rest =>
    match codePoint? [a, b, c, d] with
    | some code => readBasic (code :: done) rest
    | none => none
  | '\\' :: 'U' :: a :: b :: c :: d :: e :: f :: g :: h :: rest =>
    match codePoint? [a, b, c, d, e, f, g, h] with
    | some code => readBasic (code :: done) rest
    | none => none
  | '\\' :: c :: rest =>
    match simpleEscape? c with
    | some escaped => readBasic (escaped :: done) rest
    | none => none
  | c :: rest => if c == '\\' || isControl c then none else readBasic (c :: done) rest
  | [] => none

/-- The rest of a string in single quotes. -/
def readLiteral (done : List Char) : List Char → Option (String × List Char)
  | '\'' :: rest => some (String.ofList done.reverse, rest)
  | c :: rest => if isControl c then none else readLiteral (c :: done) rest
  | [] => none

/-- Whether only blanks are left on a line. -/
def endsLine (text : List Char) : Bool :=
  (lineFeed? (skipSpaces text)).isSome

/-- The rest of a string in three double quotes. A backslash at the end of a line
leaves out everything up to the next character that is neither a blank nor an end
of line; `skipping` tells whether that is going on. -/
def readMultiBasic (skipping : Bool) (done : List Char) : List Char → Option (String × List Char)
  | '"' :: '"' :: '"' :: '"' :: '"' :: rest =>
    some (String.ofList ('"' :: '"' :: done).reverse, rest)
  | '"' :: '"' :: '"' :: '"' :: rest => some (String.ofList ('"' :: done).reverse, rest)
  | '"' :: '"' :: '"' :: rest => some (String.ofList done.reverse, rest)
  | '\\' :: 'u' :: a :: b :: c :: d :: rest =>
    match codePoint? [a, b, c, d] with
    | some code => readMultiBasic false (code :: done) rest
    | none => none
  | '\\' :: 'U' :: a :: b :: c :: d :: e :: f :: g :: h :: rest =>
    match codePoint? [a, b, c, d, e, f, g, h] with
    | some code => readMultiBasic false (code :: done) rest
    | none => none
  | '\\' :: c :: rest =>
    match simpleEscape? c with
    | some escaped => readMultiBasic false (escaped :: done) rest
    | none =>
      if c == '\n' then readMultiBasic true done rest
      else if (c == '\r' || isSpace c) && endsLine (c :: rest) then readMultiBasic true done rest
      else none
  | '\r' :: '\n' :: rest => readMultiBasic skipping (if skipping then done else '\n' :: done) rest
  | '\n' :: rest => readMultiBasic skipping (if skipping then done else '\n' :: done) rest
  | c :: rest =>
    if skipping && isSpace c then readMultiBasic true done rest
    else if c == '\\' || isControl c then none
    else readMultiBasic false (c :: done) rest
  | [] => none

/-- The rest of a string in three single quotes. -/
def readMultiLiteral (done : List Char) : List Char → Option (String × List Char)
  | '\'' :: '\'' :: '\'' :: '\'' :: '\'' :: rest =>
    some (String.ofList ('\'' :: '\'' :: done).reverse, rest)
  | '\'' :: '\'' :: '\'' :: '\'' :: rest => some (String.ofList ('\'' :: done).reverse, rest)
  | '\'' :: '\'' :: '\'' :: rest => some (String.ofList done.reverse, rest)
  | '\r' :: '\n' :: rest => readMultiLiteral ('\n' :: done) rest
  | '\n' :: rest => readMultiLiteral ('\n' :: done) rest
  | c :: rest => if isControl c then none else readMultiLiteral (c :: done) rest
  | [] => none

/-- A string of any kind, with its opening quotes. An end of line right behind three
opening quotes does not count. -/
def readString? : List Char → Option (String × List Char)
  | '"' :: '"' :: '"' :: rest => readMultiBasic false [] (skipLineFeed rest)
  | '"' :: rest => readBasic [] rest
  | '\'' :: '\'' :: '\'' :: rest => readMultiLiteral [] (skipLineFeed rest)
  | '\'' :: rest => readLiteral [] rest
  | _ => none

end JavaSurvey.Toml
