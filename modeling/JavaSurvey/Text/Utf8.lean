/-!
# UTF-8

Bytes as text. Where bytes are no text, the fault tells the place of the first
sequence that stands for no character, and how many of its bytes could still begin
one; there is no such number if the bytes only end too early.
-/

namespace JavaSurvey.Text.Utf8

/-- Why bytes are no text. -/
structure Fault where
  /-- The number of bytes in front of the fault. -/
  index : Nat
  /-- The length of the faulty sequence, unless it is merely incomplete. -/
  length : Option Nat
deriving DecidableEq, Repr

/-- The wording of a fault. -/
def Fault.message (fault : Fault) : String :=
  match fault.length with
  | some length => s!"invalid utf-8 sequence of {length} bytes from index {fault.index}"
  | none => s!"incomplete utf-8 byte sequence from index {fault.index}"

/-- The number of bytes of the character that a byte begins; zero if it begins none. -/
def width (byte : UInt8) : Nat :=
  if byte < 0x80 then 1
  else if byte < 0xC2 then 0
  else if byte < 0xE0 then 2
  else if byte < 0xF0 then 3
  else if byte < 0xF5 then 4
  else 0

/-- Whether a byte continues a character. -/
def continues (byte : UInt8) : Bool :=
  0x80 ≤ byte && byte ≤ 0xBF

/-- Whether a byte can be the second one behind a first one. Longer forms of shorter
characters, surrogates and what lies beyond the last character are left out. -/
def continuesAfter (first byte : UInt8) : Bool :=
  if first == 0xE0 then 0xA0 ≤ byte && byte ≤ 0xBF
  else if first == 0xED then 0x80 ≤ byte && byte ≤ 0x9F
  else if first == 0xF0 then 0x90 ≤ byte && byte ≤ 0xBF
  else if first == 0xF4 then 0x80 ≤ byte && byte ≤ 0x8F
  else continues byte

/-- The six bits of a byte that continues a character. -/
def bits (byte : UInt8) : Nat :=
  byte.toNat % 64

/-- The characters of bytes, in front of which `index` bytes are read as `done` (in
reverse). -/
def decodeFrom (index : Nat) (done : List Char) : List UInt8 → Except Fault String
  | [] => .ok (String.ofList done.reverse)
  | a :: rest =>
    match width a, rest with
    | 1, rest => decodeFrom (index + 1) (Char.ofNat a.toNat :: done) rest
    | 2, [] => .error ⟨index, none⟩
    | 2, b :: rest =>
      if continues b then
        decodeFrom (index + 2) (Char.ofNat (a.toNat % 32 * 64 + bits b) :: done) rest
      else .error ⟨index, some 1⟩
    | 3, [] => .error ⟨index, none⟩
    | 3, b :: rest =>
      if continuesAfter a b then
        match rest with
        | [] => .error ⟨index, none⟩
        | c :: rest =>
          if continues c then
            decodeFrom (index + 3)
              (Char.ofNat ((a.toNat % 16 * 64 + bits b) * 64 + bits c) :: done) rest
          else .error ⟨index, some 2⟩
      else .error ⟨index, some 1⟩
    | 4, [] => .error ⟨index, none⟩
    | 4, b :: rest =>
      if continuesAfter a b then
        match rest with
        | [] => .error ⟨index, none⟩
        | c :: rest =>
          if continues c then
            match rest with
            | [] => .error ⟨index, none⟩
            | d :: rest =>
              if continues d then
                decodeFrom (index + 4)
                  (Char.ofNat (((a.toNat % 8 * 64 + bits b) * 64 + bits c) * 64 + bits d) :: done)
                  rest
              else .error ⟨index, some 3⟩
          else .error ⟨index, some 2⟩
      else .error ⟨index, some 1⟩
    | _, _ => .error ⟨index, some 1⟩

/-- The text that bytes are. -/
def decode (bytes : List UInt8) : Except Fault String :=
  decodeFrom 0 [] bytes

/-- The bytes of a text. -/
def encode (text : String) : List UInt8 :=
  text.toList.flatMap String.utf8EncodeChar

end JavaSurvey.Text.Utf8
