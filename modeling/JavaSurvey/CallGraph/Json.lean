import JavaSurvey.CallGraph.Graph
import JavaSurvey.Json.Value

/-!
# Call graphs as JSON

Edges, nodes and sizes are written as records with their fields in declaration
order.
-/

namespace JavaSurvey.CallGraph

open Json (Value)

/-- An edge as JSON. -/
def Edge.toJson (edge : Edge) : Value :=
  .object [("caller", .string edge.caller), ("callee", .string edge.callee)]

/-- The edge that a value is. -/
def Edge.ofJson? (depth : Nat) (value : Value) : Option Edge :=
  if depth = 0 then none
  else
    match value.fields? ["caller", "callee"] with
    | some [caller, callee] => do some ⟨← caller.toString?, ← callee.toString?⟩
    | _ => none

/-- A class as JSON. -/
def NodeClass.toJson (cls : NodeClass) : Value :=
  .string cls.name

/-- The class that a value is. -/
def NodeClass.ofJson? (depth : Nat) (value : Value) : Option NodeClass :=
  (value.case? depth).bind NodeClass.ofName?

/-- A node as JSON. -/
def CallNode.toJson (node : CallNode) : Value :=
  .object [("name", .string node.name), ("class", node.cls.toJson)]

/-- The node that a value is. -/
def CallNode.ofJson? (depth : Nat) (value : Value) : Option CallNode :=
  match depth with
  | 0 => none
  | depth + 1 =>
    match value.fields? ["name", "class"] with
    | some [name, cls] => do some ⟨← name.toString?, ← NodeClass.ofJson? depth cls⟩
    | _ => none

/-- The size of a graph as JSON. -/
def GraphStats.toJson (stats : GraphStats) : Value :=
  .object
    [("total_calls", .ofNat stats.totalCalls), ("total_nodes", .ofNat stats.totalNodes),
      ("class_like", .ofNat stats.classLike), ("method_like", .ofNat stats.methodLike),
      ("self_calls", .ofNat stats.selfCalls)]

/-- The size that a value is. -/
def GraphStats.ofJson? (depth : Nat) (value : Value) : Option GraphStats :=
  if depth = 0 then none
  else
    match value.fields?
      ["total_calls", "total_nodes", "class_like", "method_like", "self_calls"] with
    | some [calls, nodes, classLike, methodLike, selfCalls] => do
      some
        ⟨← calls.toNat?, ← nodes.toNat?, ← classLike.toNat?, ← methodLike.toNat?,
          ← selfCalls.toNat?⟩
    | _ => none

end JavaSurvey.CallGraph
