import JavaSurvey.Json.Value

/-!
# Writing JSON

Two layouts: compact, without any blanks, and indented, with each item on a line
of its own and two blanks for every level. Strings escape only what must be
escaped.
-/

namespace JavaSurvey.Json

/-- A hexadecimal digit, in lower case. -/
def hexDigit (n : Nat) : Char :=
  if n < 10 then Char.ofNat ('0'.toNat + n) else Char.ofNat ('a'.toNat + (n - 10))

/-- A character inside a string. -/
def escapeChar (c : Char) : List Char :=
  if c == '"' then ['\\', '"']
  else if c == '\\' then ['\\', '\\']
  else if c == '\x08' then ['\\', 'b']
  else if c == '\x0c' then ['\\', 'f']
  else if c == '\n' then ['\\', 'n']
  else if c == '\r' then ['\\', 'r']
  else if c == '\t' then ['\\', 't']
  else if c.toNat < 0x20 then
    ['\\', 'u', '0', '0', hexDigit (c.toNat / 16), hexDigit (c.toNat % 16)]
  else [c]

/-- A string in quotes. -/
def quote (text : String) : String :=
  "\"" ++ String.ofList (text.toList.flatMap escapeChar) ++ "\""

/-- The text of a value that contains no other; what has no value is written as null. -/
def Value.writeScalar : Value → String
  | .bool true => "true"
  | .bool false => "false"
  | .number literal => literal
  | .string text => quote text
  | _ => "null"

mutual

/-- A value without blanks. -/
def Value.compact : Value → String
  | .array items => "[" ++ Value.compactItems items ++ "]"
  | .object members => "\x7b" ++ Value.compactMembers members ++ "\x7d"
  | scalar => scalar.writeScalar

/-- Items with commas between. -/
def Value.compactItems : List Value → String
  | [] => ""
  | [item] => item.compact
  | item :: rest => item.compact ++ "," ++ Value.compactItems rest

/-- Members with commas between. -/
def Value.compactMembers : List (String × Value) → String
  | [] => ""
  | [(key, value)] => quote key ++ ":" ++ value.compact
  | (key, value) :: rest =>
    quote key ++ ":" ++ value.compact ++ "," ++ Value.compactMembers rest

end

/-- The start of a line at some level. -/
def indentation (level : Nat) : String :=
  "\n" ++ String.ofList (List.replicate (2 * level) ' ')

mutual

/-- A value over several lines, inside `level` arrays and objects. -/
def Value.indented (level : Nat) : Value → String
  | .array [] => "[]"
  | .array (item :: rest) =>
    "[" ++ Value.indentedItems (level + 1) (item :: rest) ++ indentation level ++ "]"
  | .object [] => "\x7b\x7d"
  | .object (member :: rest) =>
    "\x7b" ++ Value.indentedMembers (level + 1) (member :: rest) ++ indentation level ++ "\x7d"
  | scalar => scalar.writeScalar

/-- Items, each on a line of its own. -/
def Value.indentedItems (level : Nat) : List Value → String
  | [] => ""
  | [item] => indentation level ++ item.indented level
  | item :: rest =>
    indentation level ++ item.indented level ++ "," ++ Value.indentedItems level rest

/-- Members, each on a line of its own. -/
def Value.indentedMembers (level : Nat) : List (String × Value) → String
  | [] => ""
  | [(key, value)] => indentation level ++ quote key ++ ": " ++ value.indented level
  | (key, value) :: rest =>
    indentation level ++ quote key ++ ": " ++ value.indented level ++ ","
      ++ Value.indentedMembers level rest

end

/-- A value over several lines. -/
def Value.pretty (value : Value) : String :=
  value.indented 0

end JavaSurvey.Json
