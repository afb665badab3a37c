/-!
# The analysed syntax tree

A source file is analysed through a small tree that keeps only what the metrics
and the call graph reason about: packages, types, methods, fields and
invocations, nested as in the file. Bodies whose members do not belong to the
surrounding type (those of enums, records, annotation types and initialisers)
are kept as scopes.

The tree carries no invariant: names may be empty, a span may end before it
starts, and every kind may stand at the root. What a reader of source text
guarantees beyond that is proved of the reader.
-/

namespace JavaSurvey.Syntax

/-- What a node stands for. -/
inductive NodeKind where
  /-- The root of one source file. -/
  | unit
  | package
  | type
  /-- A method or a constructor. -/
  | method
  | field
  | invocation
  /-- A body or block that separates its members from the type around it. -/
  | scope
deriving DecidableEq, Repr

/-- Every kind, in declaration order. -/
def NodeKind.all : List NodeKind :=
  [.unit, .package, .type, .method, .field, .invocation, .scope]

/-- The name under which a kind is written in data exchanged with other tools. -/
def NodeKind.name : NodeKind → String
  | .unit => "Unit"
  | .package => "Package"
  | .type => "Type"
  | .method => "Method"
  | .field => "Field"
  | .invocation => "Invocation"
  | .scope => "Scope"

/-- The kind with the given name. -/
def NodeKind.ofName? (name : String) : Option NodeKind :=
  NodeKind.all.find? fun kind => kind.name == name

/-- The first and the last line of a stretch of source text, counted from one. -/
structure Span where
  startLine : Nat
  endLine : Nat
deriving DecidableEq, Repr

/-- The number of line breaks a span covers; none if it ends before it starts. -/
def Span.lineDelta (span : Span) : Nat :=
  span.endLine - span.startLine

/-- A node of the analysed tree. -/
structure Node where
  kind : NodeKind
  name : String
  span : Span
  /-- The number of declared parameters; only methods have a use for it. -/
  parameterCount : Nat
  children : List Node
deriving Repr

/-- The direct children of the given kind, in source order. -/
def Node.childrenOf (node : Node) (kind : NodeKind) : List Node :=
  node.children.filter fun child => child.kind == kind

/-- One source file: where it came from and what it holds. -/
structure SourceUnit where
  path : String
  root : Node
deriving Repr

/-! ## Views

A view is a node together with the fact that it has the kind the view is for,
so a type view can never be taken of a field.
-/

/-- A node of kind `kind`. -/
structure View (kind : NodeKind) where
  node : Node
  kind_eq : node.kind = kind

/-- A class or interface declaration. -/
abbrev TypeDeclaration := View .type

/-- A method or constructor declaration. -/
abbrev MethodDeclaration := View .method

/-- A call, known by the name that is called. -/
abbrev MethodInvocation := View .invocation

/-- The view of a node, if the node has the kind in question. -/
def View.ofNode? (kind : NodeKind) (node : Node) : Option (View kind) :=
  if h : node.kind = kind then some ⟨node, h⟩ else none

/-- The views of those nodes of a list that have the kind in question. -/
def View.ofNodes (kind : NodeKind) (nodes : List Node) : List (View kind) :=
  nodes.filterMap (View.ofNode? kind)

/-- The name of the node that is viewed. -/
def View.name {kind : NodeKind} (view : View kind) : String :=
  view.node.name

/-- The span of the node that is viewed. -/
def View.span {kind : NodeKind} (view : View kind) : Span :=
  view.node.span

/-- The methods declared directly in a type. -/
def TypeDeclaration.methods (type : TypeDeclaration) : List MethodDeclaration :=
  View.ofNodes .method type.node.children

/-- The fields declared directly in a type. -/
def TypeDeclaration.fields (type : TypeDeclaration) : List (View .field) :=
  View.ofNodes .field type.node.children

end JavaSurvey.Syntax
