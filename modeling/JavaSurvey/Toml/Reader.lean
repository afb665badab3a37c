import JavaSurvey.Toml.Scalars

/-!
# Reading TOML

A document is a row of lines, each of which is empty, opens a table or gives a key
a value. What goes wrong is not told apart: a text is a document or it is not.
-/

namespace JavaSurvey.Toml

/-- How many arrays and inline tables may be open at once, and how many parts a
dotted key may have. -/
def maxNesting : Nat := 79

/-- One part of a key. -/
def readKeyPart? (text : List Char) : Option (String × List Char) :=
  match text with
  | '"' :: rest => readBasic [] rest
  | '\'' :: rest => readLiteral [] rest
  | _ =>
    let (part, rest) := text.span isBareKeyChar
    if part.isEmpty then none else some (String.ofList part, rest)

/-- A dotted key with at most so many parts: the parts before the last one, and the
last one. Blanks may surround the points and follow the key. -/
def readKey? : Nat → List Char → Option (List String × String × List Char)
  | 0, _ => none
  | parts + 1, text =>
    match readKeyPart? text with
    | none => none
    | some (part, rest) =>
      match skipSpaces rest with
      | '.' :: rest =>
        (readKey? parts (skipSpaces rest)).map fun (path, key, rest) => (part :: path, key, rest)
      | rest => some ([], part, rest)

/-- A value that holds no other values. -/
def readScalar? (text : List Char) : Option (Value × List Char) :=
  match text with
  | 't' :: 'r' :: 'u' :: 'e' :: rest => some (.boolean true, rest)
  | 'f' :: 'a' :: 'l' :: 's' :: 'e' :: rest => some (.boolean false, rest)
  | [] => none
  | c :: _ =>
    if c == '"' || c == '\'' then
      (readString? text).map fun (string, rest) => (.string string, rest)
    else
      match skipMoment? text with
      | some rest => some (.moment, rest)
      | none => readNumber? text

mutual

/-- A value, within so many arrays and inline tables more. The first argument bounds
the values and separators that are still read. -/
def readValue? : Nat → Nat → List Char → Option (Value × List Char)
  | 0, _, _ => none
  | fuel + 1, depth, '[' :: rest =>
    if depth = 0 then none
    else (skipFiller? false rest).bind (readItems? fuel (depth - 1) [])
  | fuel + 1, depth, '{' :: rest =>
    if depth = 0 then none
    else
      match skipSpaces rest with
      | '}' :: rest => some (.table .inline [], rest)
      | rest => readPairs? fuel (depth - 1) [] rest
  | _ + 1, _, text => readScalar? text

/-- The rest of an array, whose items so far stand in `done`, in reverse. -/
def readItems? : Nat → Nat → List Value → List Char → Option (Value × List Char)
  | 0, _, _, _ => none
  | _ + 1, _, done, ']' :: rest => some (.array done.reverse, rest)
  | fuel + 1, depth, done, text => do
    let (value, rest) ← readValue? fuel depth text
    match ← skipFiller? false rest with
    | ']' :: rest => some (.array (value :: done).reverse, rest)
    | ',' :: rest => readItems? fuel depth (value :: done) (← skipFiller? false rest)
    | _ => none

/-- The rest of an inline table, in which at least one more key follows. -/
def readPairs? : Nat → Nat → Table → List Char → Option (Value × List Char)
  | 0, _, _, _ => none
  | fuel + 1, depth, done, text => do
    let (path, key, '=' :: rest) ← readKey? maxNesting text | none
    let (value, rest) ← readValue? fuel depth (skipSpaces rest)
    let done ← done.insert path key value .inline
    match skipSpaces rest with
    | '}' :: rest => some (.table .inline done, rest)
    | ',' :: rest => readPairs? fuel depth done (skipSpaces rest)
    | _ => none

end

/-- The header in front, of which the opening brackets are read already. -/
def readHeader? (isElement : Bool) (document : Document) (text : List Char) :
    Option (Document × List Char) := do
  let (path, key, rest) ← readKey? maxNesting (skipSpaces text)
  let document ← document.enter isElement path key
  match isElement, rest with
  | true, ']' :: ']' :: rest => some (document, rest)
  | false, ']' :: rest => some (document, rest)
  | _, _ => none

/-- The key and value in front. -/
def readEntry? (document : Document) (text : List Char) : Option (Document × List Char) := do
  let (path, key, '=' :: rest) ← readKey? maxNesting text | none
  let (value, rest) ← readValue? (rest.length + 1) maxNesting (skipSpaces rest)
  some (← document.insert path key value, rest)

/-- The line in front. -/
def readLine? (document : Document) (text : List Char) : Option (Document × List Char) := do
  let (document, rest) ←
    match skipSpaces text with
    | '[' :: '[' :: rest => readHeader? true document rest
    | '[' :: rest => readHeader? false document rest
    | [] => some (document, [])
    | c :: rest =>
      if c == '#' || c == '\n' || c == '\r' then some (document, c :: rest)
      else readEntry? document (c :: rest)
  some (document, ← endLine? rest)

/-- The lines of a text, at most so many. -/
def readLines? : Nat → Document → List Char → Option Document
  | _, document, [] => some document
  | 0, _, _ :: _ => none
  | lines + 1, document, text =>
    match readLine? document text with
    | some (document, rest) => readLines? lines document rest
    | none => none

/-- The document that a text is. A byte order mark may stand in front. -/
def read? (text : String) : Option Table :=
  let chars :=
    match text.toList with
    | '\ufeff' :: rest => rest
    | chars => chars
  (readLines? chars.length {} chars).map Document.root

end JavaSurvey.Toml
