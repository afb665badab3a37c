/-!
# Coloured text

Text for a terminal may be coloured by escape sequences: one that switches the
colour on in front of the text, and one that switches everything off behind it.
Where colours are off, text stays as it is.
-/

namespace JavaSurvey.Report

/-- How a piece of text is coloured. -/
inductive Ink where
  | green
  | boldGreen
  | yellow
  | red
  | cyan
deriving DecidableEq, Repr

/-- The code of a colour. -/
def Ink.code : Ink → String
  | .green => "32"
  | .boldGreen => "1;32"
  | .yellow => "33"
  | .red => "31"
  | .cyan => "36"

/-- The sequence that switches a colour on. -/
def Ink.on (ink : Ink) : List Char :=
  '\x1b' :: '[' :: ink.code.toList ++ ['m']

/-- The sequence that switches colours off. -/
def inkOff : List Char :=
  ['\x1b', '[', '0', 'm']

/-- Text in which the colour comes back wherever the text itself switches it off. -/
def resumeInk (ink : Ink) : List Char → List Char
  | '\x1b' :: '[' :: '0' :: 'm' :: rest => inkOff ++ ink.on ++ resumeInk ink rest
  | c :: rest => c :: resumeInk ink rest
  | [] => []

/-- A piece of text in a colour, if colours are on. -/
def paint (colors : Bool) (ink : Ink) (text : String) : String :=
  if colors then String.ofList (ink.on ++ resumeInk ink text.toList ++ inkOff) else text

end JavaSurvey.Report
