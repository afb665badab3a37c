import JavaSurvey.Text.Digits

/-!
# JSON values

A value of the JSON format. Numbers are kept as they are written, so that no
precision is decided here; the members of an object are kept in order, repeated
keys included.

Some text has the form of JSON but no value: a string may hold half of a surrogate
pair. Such a string, and an object with such a key, is `illFormed`. It may stand
where nobody looks, and can be read as nothing.
-/

namespace JavaSurvey.Json

open Text (digitsValue maxNatural)

/-- A JSON value. -/
inductive Value where
  | null
  | bool (value : Bool)
  | number (literal : String)
  | string (text : String)
  | array (items : List Value)
  | object (members : List (String × Value))
  | illFormed

/-- A natural number. -/
def Value.ofNat (n : Nat) : Value :=
  .number (String.ofList (Nat.toDigits 10 n))

/-- A natural number, or null. -/
def Value.ofNat? (value : Option Nat) : Value :=
  value.elim .null .ofNat

/-- A list of strings. -/
def Value.ofStrings (texts : List String) : Value :=
  .array (texts.map .string)

/-- The natural number that a value is: one written without sign, fraction and
exponent, and not larger than `maxNatural`. -/
def Value.toNat? : Value → Option Nat
  | .number literal =>
    let digits := literal.toList
    if digits.all Char.isDigit && !digits.isEmpty && digitsValue digits ≤ maxNatural then
      some (digitsValue digits)
    else none
  | _ => none

/-- The text that a value is. -/
def Value.toString? : Value → Option String
  | .string text => some text
  | _ => none

/-! ## Records and enumerations

A record is an object that has each of its fields once; other members are passed
over. It may also be an array of exactly its fields, in their order. An
enumeration without parameters is a string, or an object whose only key is that
string and whose value is null.
-/

/-- The values of the fields of a record, in the order of the names. -/
def Value.fields? (names : List String) : Value → Option (List Value)
  | .object members =>
    names.mapM fun name =>
      match members.filter fun member => member.1 == name with
      | [member] => some member.2
      | _ => none
  | .array items => if items.length = names.length then some items else none
  | _ => none

/-- The name of the case of an enumeration. An object opens a level of nesting, of
which `depth` more are allowed. -/
def Value.case? (depth : Nat) : Value → Option String
  | .string name => some name
  | .object [(name, .null)] => if depth = 0 then none else some name
  | _ => none

/-- How many arrays and objects may be open at once in data that is read. -/
def maxDepth : Nat := 127

end JavaSurvey.Json
