import JavaSurvey.Data.OrderedSet
import JavaSurvey.Syntax.Walk
import JavaSurvey.Text.Uppercase

/-!
# Call graphs

A call graph is the set of its edges, each from the name of a declaration to the
name it calls. Names are taken literally: a call is not resolved to the class that
declares what is called. Edges keep the order in which they were found first, so
the same files in the same order always give the same graph.

A node is a name at either end of an edge. Nodes are divided by their first letter
alone, which by convention tells a class from a method.
-/

namespace JavaSurvey.CallGraph

open Data (OrderedSet)
open Syntax (SourceUnit)

/-- A call from one name to another. -/
structure Edge where
  caller : String
  callee : String
deriving DecidableEq, Repr

/-- Whether a name looks like that of a class or that of a method. -/
inductive NodeClass where
  | classLike
  | methodLike
deriving DecidableEq, Repr

/-- The class of a name; an empty name has none. -/
def NodeClass.of? (name : String) : Option NodeClass :=
  name.toList.head?.map fun first =>
    if Text.isUppercase first then .classLike else .methodLike

/-- The name under which a class is written in data exchanged with other tools. -/
def NodeClass.name : NodeClass → String
  | .classLike => "ClassLike"
  | .methodLike => "MethodLike"

/-- The class with the given name. -/
def NodeClass.ofName? (name : String) : Option NodeClass :=
  [NodeClass.classLike, NodeClass.methodLike].find? fun cls => cls.name == name

/-- A name in the graph. -/
structure CallNode where
  name : String
  cls : NodeClass
deriving DecidableEq, Repr

/-- A set of calls. -/
structure Graph where
  edges : OrderedSet Edge := .empty

/-- An edge that cannot be added, because the name at one of its ends is empty. -/
structure EmptyName where
  caller : String
  callee : String
deriving DecidableEq, Repr

/-- The wording of the error. -/
def EmptyName.message (error : EmptyName) : String :=
  "empty node name in edge \"" ++ error.caller ++ "\" -> \"" ++ error.callee ++ "\""

namespace Graph

/-- The graph without calls. -/
def empty : Graph := {}

/-- The number of edges. -/
def edgeCount (graph : Graph) : Nat :=
  graph.edges.toList.length

/-- Whether the graph has an edge. -/
def contains (graph : Graph) (caller callee : String) : Bool :=
  graph.edges.contains ⟨caller, callee⟩

/-- Whether the graph has no edges. -/
def isEmpty (graph : Graph) : Bool :=
  graph.edges.toList.isEmpty

/-- Add an edge, and tell whether it is new. -/
def addEdge (graph : Graph) (caller callee : String) : Except EmptyName (Graph × Bool) :=
  if caller.isEmpty || callee.isEmpty then .error ⟨caller, callee⟩
  else .ok (⟨graph.edges.insert ⟨caller, callee⟩⟩, !graph.contains caller callee)

/-- Add edges one after the other and count the new ones, of which there are `added`
already. An edge that cannot be added ends it; the edges before it stay. -/
def addEdges (graph : Graph) (added : Nat) :
    List (String × String) → Graph × Except EmptyName Nat
  | [] => (graph, .ok added)
  | (caller, callee) :: rest =>
    match graph.addEdge caller callee with
    | .error error => (graph, .error error)
    | .ok (next, isNew) => next.addEdges (if isNew then added + 1 else added) rest

/-- Add every call pair of a source file, and count the new edges. -/
def addUnit (graph : Graph) (unit : SourceUnit) : Graph × Except EmptyName Nat :=
  graph.addEdges 0 (unit.callPairs.map fun (method, call) => (method.name, call.name))

/-- The names at the ends of edges, in the order in which they are met, caller first. -/
def endpoints (graph : Graph) : OrderedSet String :=
  .ofList (graph.edges.toList.flatMap fun edge => [edge.caller, edge.callee])

/-- The nodes, in the order in which they are met. -/
def nodes (graph : Graph) : List CallNode :=
  graph.endpoints.toList.filterMap fun name =>
    (NodeClass.of? name).map fun cls => ⟨name, cls⟩

end Graph

/-- The size of a graph. -/
structure GraphStats where
  totalCalls : Nat
  totalNodes : Nat
  classLike : Nat
  methodLike : Nat
  selfCalls : Nat
deriving DecidableEq, Repr

/-- The size of a graph. -/
def Graph.stats (graph : Graph) : GraphStats :=
  let nodes := graph.nodes
  let classLike := nodes.countP fun node => node.cls == .classLike
  { totalCalls := graph.edgeCount
    totalNodes := nodes.length
    classLike := classLike
    methodLike := nodes.length - classLike
    selfCalls := graph.edges.toList.countP fun edge => edge.caller == edge.callee }

end JavaSurvey.CallGraph
