import JavaSurvey.Json.Value
import JavaSurvey.Syntax.Node

/-!
# The analysed tree as JSON

Nodes are written as records with their fields in declaration order. Reading takes
the number of arrays and objects that may still be opened, so that no input can
nest deeper than a reader is prepared for.
-/

namespace JavaSurvey.Syntax

open Json (Value)

/-- A kind as JSON. -/
def NodeKind.toJson (kind : NodeKind) : Value :=
  .string kind.name

/-- The kind that a value is. -/
def NodeKind.ofJson? (depth : Nat) (value : Value) : Option NodeKind :=
  (value.case? depth).bind NodeKind.ofName?

/-- A span as JSON. -/
def Span.toJson (span : Span) : Value :=
  .object [("start_line", .ofNat span.startLine), ("end_line", .ofNat span.endLine)]

/-- The span that a value is. -/
def Span.ofJson? (depth : Nat) (value : Value) : Option Span :=
  if depth = 0 then none
  else
    match value.fields? ["start_line", "end_line"] with
    | some [first, last] => do some ⟨← first.toNat?, ← last.toNat?⟩
    | _ => none

mutual

/-- A node as JSON. -/
def Node.toJson : Node → Value
  | ⟨kind, name, span, parameterCount, children⟩ =>
    .object
      [("kind", kind.toJson), ("name", .string name), ("span", span.toJson),
        ("parameter_count", .ofNat parameterCount), ("children", .array (Node.allToJson children))]

/-- Several nodes as JSON. -/
def Node.allToJson : List Node → List Value
  | [] => []
  | node :: rest => node.toJson :: Node.allToJson rest

end

/-- The items of an array. -/
def items? : Value → Option (List Value)
  | .array items => some items
  | _ => none

/-- The node that a value is. The node opens one level and its children another. -/
def Node.ofJson? : Nat → Value → Option Node
  | depth + 2, value =>
    match value.fields? ["kind", "name", "span", "parameter_count", "children"] with
    | some [kind, name, span, parameterCount, children] => do
      some
        ⟨← NodeKind.ofJson? (depth + 1) kind, ← name.toString?, ← Span.ofJson? (depth + 1) span,
          ← parameterCount.toNat?, ← (← items? children).mapM (Node.ofJson? depth)⟩
    | _ => none
  | _, _ => none

end JavaSurvey.Syntax
