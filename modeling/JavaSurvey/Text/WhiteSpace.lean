import JavaSurvey.Text.CodePointSet

/-!
# White space

The characters with the property `White_Space`, and texts without them at their
ends.
-/

namespace JavaSurvey.Text

/-- The table of the property `White_Space`. -/
def whiteSpace : CodePointSet := ⟨
  [0x9, 0xE, 0x20, 0x21, 0x85, 0x86, 0xA0, 0xA1, 0x1680, 0x1681, 0x2000, 0x200B, 0x2028, 0x202A,
   0x202F, 0x2030, 0x205F, 0x2060, 0x3000, 0x3001]⟩

/-- Whether a character is white space. -/
def isWhiteSpace (c : Char) : Bool :=
  whiteSpace.contains c

/-- A text without white space at its ends. -/
def trim (text : String) : String :=
  String.ofList ((text.toList.dropWhile isWhiteSpace).reverse.dropWhile isWhiteSpace).reverse

end JavaSurvey.Text
