/-!
# Characters of TOML

The character classes of the format, and the three things that separate its
expressions: blanks, comments and ends of lines. An end of line is a line feed,
with or without a carriage return in front of it; a carriage return on its own is
not allowed anywhere.
-/

namespace JavaSurvey.Toml

/-- A blank. -/
def isSpace (c : Char) : Bool :=
  c == ' ' || c == '\t'

/-- A character that must not stand in a document as it is, the tab aside. -/
def isControl (c : Char) : Bool :=
  c != '\t' && (c.toNat < 0x20 || c.toNat == 0x7F)

/-- A character of a comment. -/
def isCommentChar (c : Char) : Bool :=
  !isControl c

/-- A character of a key without quotes. -/
def isBareKeyChar (c : Char) : Bool :=
  c.isAlphanum || c == '_' || c == '-'

/-- Leave out the blanks in front. -/
def skipSpaces (text : List Char) : List Char :=
  text.dropWhile isSpace

/-- What follows the end of line that a text starts with. -/
def lineFeed? : List Char → Option (List Char)
  | '\n' :: rest => some rest
  | '\r' :: '\n' :: rest => some rest
  | _ => none

/-- Leave out one end of line in front. -/
def skipLineFeed (text : List Char) : List Char :=
  (lineFeed? text).getD text

/-- Leave out a comment in front. -/
def skipComment : List Char → List Char
  | '#' :: rest => rest.dropWhile isCommentChar
  | text => text

/-- What follows when only blanks and a comment are left on a line. -/
def endLine? (text : List Char) : Option (List Char) :=
  match skipComment (skipSpaces text) with
  | [] => some []
  | rest => lineFeed? rest

/-- Leave out blanks, comments and ends of lines; `inComment` tells whether the text
starts within a comment. -/
def skipFiller? (inComment : Bool) : List Char → Option (List Char)
  | [] => some []
  | c :: rest =>
    if c == '\n' then skipFiller? false rest
    else if c == '\r' then
      match rest with
      | '\n' :: _ => skipFiller? false rest
      | _ => none
    else if inComment then
      if isCommentChar c then skipFiller? true rest else none
    else if isSpace c then skipFiller? false rest
    else if c == '#' then skipFiller? true rest
    else some (c :: rest)

end JavaSurvey.Toml
