import JavaSurvey.Java.Rules
import JavaSurvey.Syntax.Node

/-!
# Concrete syntax trees of Java

A concrete tree shows every construct and every token of a source text, with the
lines each stands on. Text that the grammar does not read has a tree too: it holds
an `error` node for the token that fits nowhere, or a `missing` node where the
text ends too early.

The source text of a node is its tokens with what was skipped between them.
-/

namespace JavaSurvey.Java

open Syntax (Span)

/-- A concrete syntax tree. -/
inductive Tree where
  | leaf (role : Option Role) (token : Token)
  | node (role : Option Role) (construct : Construct) (span : Span) (children : List Tree)

namespace Tree

/-- The role of a tree in its parent. -/
def role : Tree → Option Role
  | .leaf role _ => role
  | .node role _ _ _ => role

/-- The construct of a node; tokens have none. -/
def construct? : Tree → Option Construct
  | .leaf _ _ => none
  | .node _ construct _ _ => some construct

/-- The lines on which a tree stands. -/
def span : Tree → Span
  | .leaf _ token => ⟨token.startLine, token.endLine⟩
  | .node _ _ span _ => span

/-- The direct children. -/
def children : Tree → List Tree
  | .leaf _ _ => []
  | .node _ _ _ children => children

mutual

/-- The tokens of a tree, from left to right. -/
def tokens : Tree → List Token
  | .leaf _ token => [token]
  | .node _ _ _ children => tokensOfAll children

/-- The tokens of several trees. -/
def tokensOfAll : List Tree → List Token
  | [] => []
  | tree :: rest => tree.tokens ++ tokensOfAll rest

end

/-- The source text that tokens cover. -/
def textOfTokens : List Token → String
  | [] => ""
  | first :: rest => rest.foldl (fun text token => text ++ token.skipped ++ token.text) first.text

/-- The source text of a tree. -/
def text (tree : Tree) : String :=
  textOfTokens tree.tokens

/-- The first child in a role. -/
def childIn? (role : Role) (tree : Tree) : Option Tree :=
  tree.children.find? fun child => child.role == some role

/-- The lines from the first to the last of several trees. -/
def spanOfAll (trees : List Tree) : Span :=
  ⟨trees.head?.elim 0 (·.span.startLine), trees.getLast?.elim 0 (·.span.endLine)⟩

mutual

/-- The concrete tree of a derivation. -/
def ofDerivation : Grammar.Derivation Token Construct Role → Tree
  | .leaf role token => .leaf role token
  | .node role construct children =>
    let children := ofDerivations children
    .node role construct (spanOfAll children) children

/-- The concrete trees of several derivations. -/
def ofDerivations : List (Grammar.Derivation Token Construct Role) → List Tree
  | [] => []
  | derivation :: rest => ofDerivation derivation :: ofDerivations rest

end

/-- What becomes of the token with the given number when it fits nowhere; a place
after the last token if there is no such token. Only that there is a fault is settled
by the grammar. The place is a convention: a parser that repairs a text may put a
token that it misses behind the token before, which can stand on an earlier line. -/
def fault (source : TokenizedSource) (number : Nat) : Tree :=
  match source.tokens[number]? with
  | some token => .node none .error ⟨token.startLine, token.endLine⟩ [.leaf none token]
  | none =>
    let line := source.tokens.back?.elim source.startLine (·.endLine)
    .node none .missing ⟨line, line⟩ []

/-- The concrete tree of a source text. If the grammar does not read the text, the
tree is the row of its tokens up to the first one that fits nowhere, and the line of
its fault is that of `fault`; other parsers may recover by another tree. -/
def ofSource (text : String) : Tree :=
  let source := tokenize text
  let children :=
    match grammar.read readings source.tokens with
    | .ok derivations => ofDerivations derivations
    | .error number =>
      ((source.tokens.toList.take number).map (Tree.leaf none)) ++ [fault source number]
  .node none .program ⟨source.startLine, source.endLine⟩ children

/-- Whether a node stands for text that is not Java. -/
def isFault (tree : Tree) : Bool :=
  match tree.construct? with
  | some construct => construct == .error || construct == .missing
  | none => false

mutual

/-- Whether a fault stands at or below a node. -/
def hasFault : Tree → Bool
  | .leaf _ _ => false
  | .node role construct span children =>
    isFault (.node role construct span children) || anyHasFault children

/-- Whether a fault stands in one of several trees. -/
def anyHasFault : List Tree → Bool
  | [] => false
  | tree :: rest => tree.hasFault || anyHasFault rest

end

mutual

/-- The line of the first fault, looked for only where there is one. -/
def firstFaultLine? : Tree → Option Nat
  | .leaf _ _ => none
  | .node role construct span children =>
    if isFault (.node role construct span children) then some span.startLine
    else firstFaultLineOfAll? children

/-- The line of the first fault in several trees; trees without a fault are passed over. -/
def firstFaultLineOfAll? : List Tree → Option Nat
  | [] => none
  | tree :: rest =>
    if tree.hasFault then tree.firstFaultLine?.or (firstFaultLineOfAll? rest)
    else firstFaultLineOfAll? rest

end

end Tree

end JavaSurvey.Java
