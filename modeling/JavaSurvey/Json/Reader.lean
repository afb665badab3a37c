import JavaSurvey.Json.Value

/-!
# Reading JSON

A text is read as one value with blanks around it. Every reader takes the text
that is left and gives back what it read and what is then left.
-/

namespace JavaSurvey.Json

open Text (hexValue?)

/-- A blank of the format. -/
def isBlank (c : Char) : Bool :=
  c == ' ' || c == '\n' || c == '\t' || c == '\r'

/-- Leave out the blanks in front. -/
def skipBlanks (text : List Char) : List Char :=
  text.dropWhile isBlank

/-- The code unit that four hexadecimal digits stand for. -/
def codeUnit? (a b c d : Char) : Option Nat := do
  some (((← hexValue? a) * 16 + (← hexValue? b)) * 256 + (← hexValue? c) * 16 + (← hexValue? d))

/-- The character behind a backslash, apart from code units. -/
def simpleEscape? (c : Char) : Option Char :=
  if c == '"' || c == '\\' || c == '/' then some c
  else if c == 'b' then some '\x08'
  else if c == 'f' then some '\x0c'
  else if c == 'n' then some '\n'
  else if c == 'r' then some '\r'
  else if c == 't' then some '\t'
  else none

/-- Whether a code unit is the first half of a pair. -/
def isLeading (unit : Nat) : Bool :=
  0xD800 ≤ unit && unit < 0xDC00

/-- Whether a code unit is the second half of a pair. -/
def isTrailing (unit : Nat) : Bool :=
  0xDC00 ≤ unit && unit < 0xE000

/-- The character of a pair of code units. -/
def pairedChar (leading trailing : Nat) : Char :=
  Char.ofNat (0x10000 + (leading - 0xD800) * 0x400 + (trailing - 0xDC00))

/-- A string as far as it is read. -/
structure PartialString where
  /-- The characters, in reverse. -/
  chars : List Char := []
  /-- A first half of a pair that waits for the second. -/
  half : Option Nat := none
  /-- Whether a half of a pair stood alone. -/
  broken : Bool := false

/-- Add a character. -/
def PartialString.push (part : PartialString) (c : Char) : PartialString :=
  ⟨c :: part.chars, none, part.broken || part.half.isSome⟩

/-- Add a code unit. -/
def PartialString.pushUnit (part : PartialString) (unit : Nat) : PartialString :=
  if isTrailing unit then
    match part.half with
    | some leading => ⟨pairedChar leading unit :: part.chars, none, part.broken⟩
    | none => ⟨part.chars, none, true⟩
  else if isLeading unit then ⟨part.chars, some unit, part.broken || part.half.isSome⟩
  else part.push (Char.ofNat unit)

/-- The whole string; nothing if a half of a pair stands alone. -/
def PartialString.finish (part : PartialString) : Option String :=
  if part.broken || part.half.isSome then none else some (String.ofList part.chars.reverse)

/-- The rest of a string, of which `part` is read already. -/
def readStringFrom (part : PartialString) : List Char → Option (Option String × List Char)
  | '"' :: rest => some (part.finish, rest)
  | '\\' :: 'u' :: a :: b :: c :: d :: rest =>
    match codeUnit? a b c d with
    | some unit => readStringFrom (part.pushUnit unit) rest
    | none => none
  | '\\' :: c :: rest =>
    match simpleEscape? c with
    | some escaped => readStringFrom (part.push escaped) rest
    | none => none
  | c :: rest =>
    if c.toNat < 0x20 || c == '\\' then none else readStringFrom (part.push c) rest
  | [] => none

/-- The rest of a string behind its opening quote. -/
def readString (text : List Char) : Option (Option String × List Char) :=
  readStringFrom {} text

/-- Digits, at least one. -/
def readDigits (text : List Char) : Option (List Char × List Char) :=
  let (digits, rest) := text.span Char.isDigit
  if digits.isEmpty then none else some (digits, rest)

/-- The whole part of a number: zero, or digits that do not start with zero. -/
def readWhole (text : List Char) : Option (List Char × List Char) := do
  let (digits, rest) ← readDigits text
  match digits with
  | '0' :: _ :: _ => none
  | _ => some (digits, rest)

/-- The fraction of a number, if there is one. -/
def readFraction (text : List Char) : Option (List Char × List Char) :=
  match text with
  | '.' :: rest => do
    let (digits, rest) ← readDigits rest
    some ('.' :: digits, rest)
  | _ => some ([], text)

/-- The exponent of a number, if there is one. -/
def readExponent (text : List Char) : Option (List Char × List Char) :=
  match text with
  | c :: rest =>
    if c == 'e' || c == 'E' then
      match rest with
      | sign :: more =>
        if sign == '+' || sign == '-' then do
          let (digits, rest) ← readDigits more
          some (c :: sign :: digits, rest)
        else do
          let (digits, rest) ← readDigits rest
          some (c :: digits, rest)
      | [] => none
    else some ([], text)
  | [] => some ([], text)

/-- A number without its sign. -/
def readUnsigned (text : List Char) : Option (List Char × List Char) := do
  let (whole, rest) ← readWhole text
  let (fraction, rest) ← readFraction rest
  let (exponent, rest) ← readExponent rest
  some (whole ++ fraction ++ exponent, rest)

/-- A number. -/
def readNumber (text : List Char) : Option (Value × List Char) :=
  match text with
  | '-' :: unsigned => do
    let (literal, rest) ← readUnsigned unsigned
    some (.number (String.ofList ('-' :: literal)), rest)
  | _ => do
    let (literal, rest) ← readUnsigned text
    some (.number (String.ofList literal), rest)

/-- An object of the members that were read, where a key may be missing. -/
def objectOf (members : List (Option String × Value)) : Value :=
  match members.mapM fun (key, value) => key.map fun key => (key, value) with
  | some members => .object members
  | none => .illFormed

mutual

/-- A value, without blanks in front. `fuel` is not less than the length of the text. -/
def readValue : Nat → List Char → Option (Value × List Char)
  | 0, _ => none
  | fuel + 1, text =>
    match text with
    | 'n' :: 'u' :: 'l' :: 'l' :: rest => some (.null, rest)
    | 't' :: 'r' :: 'u' :: 'e' :: rest => some (.bool true, rest)
    | 'f' :: 'a' :: 'l' :: 's' :: 'e' :: rest => some (.bool false, rest)
    | '"' :: rest => do
      let (text, rest) ← readString rest
      some (text.elim .illFormed .string, rest)
    | '[' :: rest =>
      match skipBlanks rest with
      | ']' :: rest => some (.array [], rest)
      | rest => do
        let (items, rest) ← readItems fuel rest
        some (.array items, rest)
    | '{' :: rest =>
      match skipBlanks rest with
      | '}' :: rest => some (.object [], rest)
      | rest => do
        let (members, rest) ← readMembers fuel rest
        some (objectOf members, rest)
    | text => readNumber text

/-- The items of an array, at least one, and its closing bracket. -/
def readItems : Nat → List Char → Option (List Value × List Char)
  | 0, _ => none
  | fuel + 1, text => do
    let (item, rest) ← readValue fuel text
    match skipBlanks rest with
    | ']' :: rest => some ([item], rest)
    | ',' :: rest => do
      let (items, rest) ← readItems fuel (skipBlanks rest)
      some (item :: items, rest)
    | _ => none

/-- The members of an object, at least one, and its closing brace. -/
def readMembers : Nat → List Char → Option (List (Option String × Value) × List Char)
  | 0, _ => none
  | fuel + 1, text =>
    match text with
    | '"' :: rest => do
      let (key, rest) ← readString rest
      match skipBlanks rest with
      | ':' :: rest => do
        let (value, rest) ← readValue fuel (skipBlanks rest)
        match skipBlanks rest with
        | '}' :: rest => some ([(key, value)], rest)
        | ',' :: rest => do
          let (members, rest) ← readMembers fuel (skipBlanks rest)
          some ((key, value) :: members, rest)
        | _ => none
      | _ => none
    | _ => none

end

/-- The value that a whole text is. -/
def read? (text : String) : Option Value := do
  let chars := text.toList
  let (value, rest) ← readValue (chars.length + 1) (skipBlanks chars)
  if (skipBlanks rest).isEmpty then some value else none

end JavaSurvey.Json
