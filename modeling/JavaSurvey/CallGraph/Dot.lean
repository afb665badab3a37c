import JavaSurvey.CallGraph.Graph

/-!
# Call graphs in the DOT language

A description has one statement per edge, one per node with its fill colour, and a
legend. Names are quoted, so that any name can stand in a statement; colours are
written as they were configured.
-/

namespace JavaSurvey.CallGraph

/-- The fill colours of the two classes of nodes. -/
structure Palette where
  classColor : String := "lightblue"
  methodColor : String := "lightgreen"
deriving DecidableEq, Repr

/-- The fill colour of a class of nodes. -/
def Palette.colorOf (palette : Palette) : NodeClass → String
  | .classLike => palette.classColor
  | .methodLike => palette.methodColor

/-- A character inside a quoted name: a backslash in front of quotes and backslashes. -/
def escapeChar (c : Char) : List Char :=
  if c == '\\' || c == '"' then ['\\', c] else [c]

/-- A name in quotes. -/
def quote (name : String) : String :=
  "\"" ++ String.ofList (name.toList.flatMap escapeChar) ++ "\""

/-- The statement of an edge. -/
def edgeStatement (edge : Edge) : String :=
  quote edge.caller ++ " -> " ++ quote edge.callee ++ ";\n"

/-- The statement of a node. -/
def nodeStatement (palette : Palette) (node : CallNode) : String :=
  quote node.name ++ " [fillcolor=" ++ palette.colorOf node.cls ++ ", style=filled];\n"

/-- What a description starts with. -/
def header : String :=
  "digraph CallGraph \x7b\nnode [shape=rectangle, style=filled];\n"

/-- The row of the legend for a class of nodes. -/
def legendRow (color label : String) : String :=
  "<TR><TD BGCOLOR=\"" ++ color ++ "\">" ++ label ++ "</TD></TR>\n"

/-- The legend. -/
def legend (palette : Palette) : String :=
  "subgraph cluster_legend \x7b\nlabel=\"Legend\";\n"
    ++ "key [label=<<TABLE BORDER=\"0\" CELLBORDER=\"1\" CELLSPACING=\"0\">\n"
    ++ legendRow palette.classColor "Class"
    ++ legendRow palette.methodColor "Method"
    ++ "</TABLE>>, shape=plaintext]\n\x7d\n"

/-- The description of a graph. -/
def Graph.toDot (palette : Palette) (graph : Graph) : String :=
  header
    ++ String.join (graph.edges.toList.map edgeStatement)
    ++ String.join (graph.nodes.map (nodeStatement palette))
    ++ legend palette
    ++ "\x7d\n"

end JavaSurvey.CallGraph
