import JavaSurvey.Files.Path
import JavaSurvey.Java.Tree

/-!
# From Java to the analysed tree

Lowering keeps the declarations and calls of a concrete tree and forgets every
other node: what stood below a forgotten node hangs below the nearest node that is
kept. So the kept nodes come out once each, in source order, each below its
nearest kept ancestor.

Two points of the rule may surprise. A compact constructor is not kept, and what it
calls belongs to the node around its record's body. And a block is kept only
directly in the body of a class or an interface, where it is an initialiser.
-/

namespace JavaSurvey.Java

open Syntax (Node NodeKind SourceUnit)

/-- Source text that is not Java, and the line where that shows. -/
structure Malformed where
  path : String
  line : Nat
deriving DecidableEq, Repr

/-- How a malformed source is reported. -/
def Malformed.message (fault : Malformed) : String :=
  s!"Malformed Java source in {fault.path} near line {fault.line}"

namespace Tree

/-- The text of the child in the role of the name. -/
def nameText? (tree : Tree) : Option String :=
  (tree.childIn? .name).map Tree.text

/-- Whether a node declares a parameter that is counted. The receiver is not. -/
def isParameter (tree : Tree) : Bool :=
  match tree.construct? with
  | some construct => construct == .formalParameter || construct == .spreadParameter
  | none => false

/-- The number of parameters a declaration has. -/
def parameterCount (tree : Tree) : Nat :=
  match tree.childIn? .parameters with
  | some parameters => parameters.children.countP isParameter
  | none => 0

/-- The name of the first variable that a field declaration declares. -/
def firstDeclaredName (tree : Tree) : String :=
  ((tree.childIn? .declarator).bind nameText?).getD ""

/-- Whether the members of a construct are members of a type. -/
def isTypeBody (construct : Option Construct) : Bool :=
  construct == some .classBody || construct == some .interfaceBody

/-- What a node becomes if it is kept, still without children; `parent` is the
construct around it. -/
def retain? (parent : Option Construct) (tree : Tree) : Option Node :=
  let keep := fun (kind : NodeKind) (name : String) (parameters : Nat) =>
    (⟨kind, name, tree.span, parameters, []⟩ : Node)
  match tree.construct? with
  | some .packageDeclaration => tree.nameText?.map (keep .package · 0)
  | some .classDeclaration => tree.nameText?.map (keep .type · 0)
  | some .interfaceDeclaration => tree.nameText?.map (keep .type · 0)
  | some .methodDeclaration => tree.nameText?.map (keep .method · tree.parameterCount)
  | some .constructorDeclaration => tree.nameText?.map (keep .method · tree.parameterCount)
  | some .fieldDeclaration => some (keep .field tree.firstDeclaredName 0)
  | some .constantDeclaration => some (keep .field tree.firstDeclaredName 0)
  | some .methodInvocation => tree.nameText?.map (keep .invocation · 0)
  | some .enumDeclaration => some (keep .scope (tree.nameText?.getD "") 0)
  | some .recordDeclaration => some (keep .scope (tree.nameText?.getD "") 0)
  | some .annotationTypeDeclaration => some (keep .scope (tree.nameText?.getD "") 0)
  | some .staticInitializer => some (keep .scope "static" 0)
  | some .block => if isTypeBody parent then some (keep .scope "" 0) else none
  | _ => none

mutual

/-- What a tree becomes: one node if it is kept, otherwise what its children become. -/
def lower (parent : Option Construct) : Tree → List Node
  | .leaf _ _ => []
  | .node role construct span children =>
    match retain? parent (.node role construct span children) with
    | some kept => [{ kept with children := lowerAll (some construct) children }]
    | none => lowerAll (some construct) children

/-- What several trees become, one after the other. -/
def lowerAll (parent : Option Construct) : List Tree → List Node
  | [] => []
  | tree :: rest => lower parent tree ++ lowerAll parent rest

end

/-- The analysed file for the concrete tree of a whole source text. -/
def toUnit (path : String) (tree : Tree) : SourceUnit :=
  ⟨path, ⟨.unit, Files.fileStem path, tree.span, 0, lowerAll tree.construct? tree.children⟩⟩

end Tree

/-- Read Java source text. -/
def parse (path text : String) : Except Malformed SourceUnit :=
  let tree := Tree.ofSource text
  if tree.hasFault then .error ⟨path, tree.firstFaultLine?.getD tree.span.startLine⟩
  else .ok (tree.toUnit path)

end JavaSurvey.Java
