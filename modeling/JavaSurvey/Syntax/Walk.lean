import JavaSurvey.Syntax.Node

/-!
# Selections in pre-order

Every selection lists nodes in pre-order: a node before its children, children
from left to right. The walk keeps the nodes it has still to visit on a stack,
so its depth does not grow with the depth of the tree. `Node.preorder` lists the
same nodes by recursion on the tree and is what the walk is measured against.

Selections compose: the invocations of a method are those below its node, and a
call pair joins a declaration to an invocation inside it. An invocation inside
nested declarations is therefore paired with each of them.
-/

namespace JavaSurvey.Syntax

mutual

/-- A node followed by everything below it, in pre-order. -/
def Node.preorder : Node → List Node
  | ⟨kind, name, span, parameterCount, children⟩ =>
    ⟨kind, name, span, parameterCount, children⟩ :: Node.preorderAll children

/-- The nodes of several trees, one tree after the other. -/
def Node.preorderAll : List Node → List Node
  | [] => []
  | node :: rest => node.preorder ++ Node.preorderAll rest

end

mutual

/-- The number of nodes of a tree. -/
def Node.size : Node → Nat
  | ⟨_, _, _, _, children⟩ => 1 + Node.sizeAll children

/-- The number of nodes of several trees. -/
def Node.sizeAll : List Node → Nat
  | [] => 0
  | node :: rest => node.size + Node.sizeAll rest

end

theorem Node.sizeAll_append (first second : List Node) :
    Node.sizeAll (first ++ second) = Node.sizeAll first + Node.sizeAll second := by
  induction first with
  | nil => simp [Node.sizeAll]
  | cons node rest ih => simp [Node.sizeAll, ih, Nat.add_assoc]

theorem Node.size_eq (node : Node) : node.size = 1 + Node.sizeAll node.children := by
  cases node; simp [Node.size]

/-- Walk a stack of pending nodes: visit the top, then put its children on top,
leftmost uppermost. -/
def walk (keep : Node → Bool) : List Node → List Node
  | [] => []
  | node :: pending =>
    if keep node then node :: walk keep (node.children ++ pending)
    else walk keep (node.children ++ pending)
termination_by pending => Node.sizeAll pending
decreasing_by
  all_goals
    simp only [Node.sizeAll, Node.sizeAll_append, Node.size_eq]
    omega

/-- The nodes at or below `root` that `keep` accepts, in pre-order. -/
def select (root : Node) (keep : Node → Bool) : List Node :=
  walk keep [root]

/-- The nodes at or below `root` of one kind, as views of that kind. -/
def selectKind (root : Node) (kind : NodeKind) : List (View kind) :=
  View.ofNodes kind (select root fun node => node.kind == kind)

/-- All type declarations of a file, nested ones included. -/
def SourceUnit.types (unit : SourceUnit) : List TypeDeclaration :=
  selectKind unit.root .type

/-- All method and constructor declarations of a file, nested ones included. -/
def SourceUnit.declarations (unit : SourceUnit) : List MethodDeclaration :=
  selectKind unit.root .method

/-- The invocations anywhere inside a declaration. -/
def MethodDeclaration.invocations (declaration : MethodDeclaration) : List MethodInvocation :=
  selectKind declaration.node .invocation

/-- The names of the packages a file declares. -/
def SourceUnit.packages (unit : SourceUnit) : List String :=
  (selectKind unit.root .package).map View.name

/-- Each declaration joined to each invocation inside it, by declaration and
then by invocation. -/
def SourceUnit.callPairs (unit : SourceUnit) : List (MethodDeclaration × MethodInvocation) :=
  unit.declarations.flatMap fun declaration =>
    declaration.invocations.map fun invocation => (declaration, invocation)

end JavaSurvey.Syntax
