import JavaSurvey.Java.Lexeme

/-!
# Tokens of Java source text

A token is a lexeme that the grammar sees, together with what the grammar does
not see: the blanks and comments in front of it, and the lines it stands on.
Keeping the skipped text lets the exact source text of a phrase of several
tokens be read off its tokens.

Lines are counted from one, and only a line feed ends a line.
-/

namespace JavaSurvey.Java

/-- A lexeme with its place and the text skipped in front of it. -/
structure Token where
  shape : Shape
  text : String
  /-- The blanks and comments between the previous token and this one. -/
  skipped : String
  startLine : Nat
  endLine : Nat
deriving DecidableEq, Repr

/-- The tokens of a source text and the lines on which it starts and ends. -/
structure TokenizedSource where
  tokens : Array Token
  /-- The line of the first lexeme that is not blank; the last line if there is none. -/
  startLine : Nat
  /-- The line on which the text ends. -/
  endLine : Nat

/-- The number of line feeds in a text. -/
def lineFeeds (text : String) : Nat :=
  text.toList.countP (· == '\n')

/-- The state of attaching skipped text to tokens. -/
structure TokenizerState where
  tokens : Array Token := #[]
  skipped : String := ""
  line : Nat := 1
  startLine : Option Nat := none

/-- Take one more lexeme into account. -/
def TokenizerState.step (state : TokenizerState) (lexeme : Lexeme) : TokenizerState :=
  let endLine := state.line + lineFeeds lexeme.text
  match lexeme.shape with
  | .blank => { state with skipped := state.skipped ++ lexeme.text, line := endLine }
  | .comment =>
    { state with
      skipped := state.skipped ++ lexeme.text
      line := endLine
      startLine := state.startLine.or (some state.line) }
  | shape =>
    { tokens := state.tokens.push ⟨shape, lexeme.text, state.skipped, state.line, endLine⟩
      skipped := ""
      line := endLine
      startLine := state.startLine.or (some state.line) }

/-- Cut a source text into tokens. -/
def tokenize (text : String) : TokenizedSource :=
  let last := (lexemes text).foldl TokenizerState.step {}
  { tokens := last.tokens
    startLine := last.startLine.getD last.line
    endLine := last.line }

end JavaSurvey.Java
