import JavaSurvey.CallGraph.Dot
import JavaSurvey.Proofs.GraphGrowth

/-!
# Reading calls back from a description

Statements follow each other in a description without any mark of their length,
names can hold every character, and colours are written as they are. Still the
calls can be read back: a quoted name ends at the first quote that no backslash
protects, whatever the name is, and the text behind it tells a call from a node.
So one reader, which knows neither the graph nor the colours, reads statements
as long as they are calls.

## Main results

* `unquote?_escaped`: a quoted name is read back, and reading stops at its end.
* `readEdge?_edgeStatement`, `readEdge?_nodes`: a call is read as such, and what
  follows the calls is not.
* `toDot_determines_edges`: the calls are read back from every description.
-/

namespace JavaSurvey.CallGraph

/-! ## Quoted names -/

/-- Read a quoted name behind its opening quote: the characters of the name, and
the text behind its closing quote. A backslash protects the next character. -/
def unquote? : List Char → Option (List Char × List Char)
  | [] => none
  | '"' :: rest => some ([], rest)
  | '\\' :: c :: rest =>
    (unquote? rest).map fun (name, rest) => (c :: name, rest)
  | c :: rest => (unquote? rest).map fun (name, rest) => (c :: name, rest)

/-- Apart from backslashes and quotes, characters stand for themselves. -/
theorem escapeChar_cases (c : Char) :
    c = '\\' ∨ c = '"' ∨ c ≠ '\\' ∧ c ≠ '"' ∧ escapeChar c = [c] := by
  by_cases hbackslash : c = '\\'
  · exact Or.inl hbackslash
  · by_cases hquote : c = '"'
    · exact Or.inr (Or.inl hquote)
    · have hplain : escapeChar c = [c] := by simp [escapeChar, hbackslash, hquote]
      exact Or.inr (Or.inr ⟨hbackslash, hquote, hplain⟩)

theorem unquote?_escapeChar_append (c : Char) (text : List Char) :
    unquote? (escapeChar c ++ text) =
      (unquote? text).map fun (name, rest) => (c :: name, rest) := by
  rcases escapeChar_cases c with rfl | rfl | ⟨hbackslash, hquote, hplain⟩
  · rfl
  · rfl
  · rw [hplain, List.singleton_append, unquote?]
    · exact hquote
    · intro _ _ hc
      exact absurd hc hbackslash

/-- A name is read back up to its closing quote, and no further. -/
theorem unquote?_escaped (name rest : List Char) :
    unquote? (name.flatMap escapeChar ++ '"' :: rest) = some (name, rest) := by
  induction name with
  | nil => rfl
  | cons c name ih =>
      rw [List.flatMap_cons, List.append_assoc, unquote?_escapeChar_append, ih]
      rfl

/-- Reading a name uses up at least its closing quote. -/
theorem length_lt_of_unquote? {text name rest : List Char}
    (h : unquote? text = some (name, rest)) : rest.length < text.length := by
  fun_induction unquote? text generalizing name rest with
  | case1 => cases h
  | case2 text =>
      cases h
      exact Nat.lt_succ_self _
  | case3 c text ih =>
      obtain ⟨⟨inner, _⟩, hinner, heq⟩ := Option.map_eq_some_iff.1 h
      cases heq
      have hlt := ih hinner
      simp only [List.length_cons]
      omega
  | case4 c text _ _ ih =>
      obtain ⟨⟨inner, _⟩, hinner, heq⟩ := Option.map_eq_some_iff.1 h
      cases heq
      have hlt := ih hinner
      simp only [List.length_cons]
      omega

/-- Read a quoted name with its opening quote. -/
def readName? : List Char → Option (String × List Char)
  | '"' :: rest =>
    (unquote? rest).map fun (name, rest) => (String.ofList name, rest)
  | _ => none

theorem toList_quote (name : String) :
    (quote name).toList = '"' :: (name.toList.flatMap escapeChar ++ ['"']) := by
  simp [quote]

theorem readName?_quote_append (name : String) (rest : List Char) :
    readName? ((quote name).toList ++ rest) = some (name, rest) := by
  rw [toList_quote, List.cons_append, List.append_assoc, List.singleton_append,
    readName?, unquote?_escaped]
  simp only [Option.map_some, String.ofList_toList]

theorem length_lt_of_readName? {text rest : List Char} {name : String}
    (h : readName? text = some (name, rest)) : rest.length < text.length := by
  unfold readName? at h
  split at h
  next text =>
    obtain ⟨⟨inner, _⟩, hinner, heq⟩ := Option.map_eq_some_iff.1 h
    cases heq
    have hlt := length_lt_of_unquote? hinner
    exact Nat.lt_succ_of_lt hlt
  next => cases h

/-! ## Calls -/

/-- Read the statement of a call. -/
def readEdge? (text : List Char) : Option (Edge × List Char) :=
  (readName? text).bind fun (caller, text) =>
    (" -> ".toList.isPrefixOf? text).bind fun text =>
      (readName? text).bind fun (callee, text) =>
        (";\n".toList.isPrefixOf? text).map fun text => (⟨caller, callee⟩, text)

/-- A fixed text is found where it stands. -/
private theorem isPrefixOf?_append (part rest : List Char) :
    part.isPrefixOf? (part ++ rest) = some rest :=
  List.isPrefixOf?_eq_some_iff_append_eq.2 rfl

theorem readEdge?_edgeStatement (edge : Edge) (rest : List Char) :
    readEdge? ((edgeStatement edge).toList ++ rest) = some (edge, rest) := by
  have hparts : (edgeStatement edge).toList ++ rest =
      (quote edge.caller).toList ++ (" -> ".toList ++
        ((quote edge.callee).toList ++ (";\n".toList ++ rest))) := by
    simp only [edgeStatement, String.toList_append, List.append_assoc]
  rw [hparts, readEdge?]
  simp only [readName?_quote_append, Option.bind_some, isPrefixOf?_append,
    Option.map_some]

theorem length_lt_of_readEdge? {text rest : List Char} {edge : Edge}
    (h : readEdge? text = some (edge, rest)) : rest.length < text.length := by
  obtain ⟨⟨caller, afterCaller⟩, hcaller, h⟩ := Option.bind_eq_some_iff.1 h
  obtain ⟨afterArrow, harrow, h⟩ := Option.bind_eq_some_iff.1 h
  obtain ⟨⟨callee, afterCallee⟩, hcallee, h⟩ := Option.bind_eq_some_iff.1 h
  obtain ⟨afterEnd, hend, heq⟩ := Option.map_eq_some_iff.1 h
  cases heq
  have hcallerLength := length_lt_of_readName? hcaller
  have hcalleeLength := length_lt_of_readName? hcallee
  have harrowLength := congrArg List.length
    (List.isPrefixOf?_eq_some_iff_append_eq.1 harrow)
  have hendLength := congrArg List.length
    (List.isPrefixOf?_eq_some_iff_append_eq.1 hend)
  rw [List.length_append] at harrowLength hendLength
  omega

/-- Read calls as long as there are any. -/
def readEdges (text : List Char) : List Edge :=
  match _h : readEdge? text with
  | some (edge, rest) => edge :: readEdges rest
  | none => []
termination_by text.length
decreasing_by exact length_lt_of_readEdge? (by assumption)

theorem readEdges_of_some {text rest : List Char} {edge : Edge}
    (h : readEdge? text = some (edge, rest)) :
    readEdges text = edge :: readEdges rest := by
  rw [readEdges]
  split
  next heq =>
    rw [h] at heq
    cases heq
    rfl
  next heq =>
    rw [h] at heq
    cases heq

theorem readEdges_of_none {text : List Char} (h : readEdge? text = none) :
    readEdges text = [] := by
  rw [readEdges]
  split
  next heq =>
    rw [h] at heq
    cases heq
  next => rfl

/-- Calls are read in order, up to a text that does not begin with a call. -/
theorem readEdges_edgeStatements (edges : List Edge) {rest : List Char}
    (h : readEdge? rest = none) :
    readEdges ((String.join (edges.map edgeStatement)).toList ++ rest) =
      edges := by
  induction edges with
  | nil => exact readEdges_of_none h
  | cons edge edges ih =>
      rw [List.map_cons, String.join_cons, String.toList_append,
        List.append_assoc, readEdges_of_some (readEdge?_edgeStatement edge _),
        ih]

/-! ## Descriptions -/

/-- The calls that a description describes. -/
def edgesOfDot (text : String) : List Edge :=
  (header.toList.isPrefixOf? text.toList).elim [] readEdges

/-- A node is not read as a call: behind its name there is no arrow. -/
theorem readEdge?_nodeStatement (palette : Palette) (node : CallNode)
    (rest : List Char) :
    readEdge? ((nodeStatement palette node).toList ++ rest) = none := by
  have hparts : (nodeStatement palette node).toList ++ rest =
      (quote node.name).toList ++ (' ' :: '[' :: ("fillcolor=".toList ++
        ((palette.colorOf node.cls).toList ++
          (", style=filled];\n".toList ++ rest)))) := by
    simp [nodeStatement]
  have hnoArrow : ∀ more, " -> ".toList.isPrefixOf? (' ' :: '[' :: more) = none := by
    intro more
    simp [List.isPrefixOf?]
  rw [hparts, readEdge?]
  simp only [readName?_quote_append, Option.bind_some, hnoArrow, Option.bind_none]

/-- The legend does not begin with a name. -/
theorem head?_legend (palette : Palette) :
    (legend palette).toList.head? = some 's' := by
  have hopening :
      "subgraph cluster_legend \x7b\nlabel=\"Legend\";\n".toList.head? =
        some 's' := by decide +kernel
  unfold legend
  simp only [String.toList_append, List.head?_append, hopening, Option.some_or]

/-- What follows the calls does not begin with a call. -/
theorem readEdge?_nodes (palette : Palette) (nodes : List CallNode)
    (rest : List Char) :
    readEdge? ((String.join (nodes.map (nodeStatement palette))).toList ++
      ((legend palette).toList ++ rest)) = none := by
  cases nodes with
  | nil =>
      obtain ⟨more, hmore⟩ := List.head?_eq_some_iff.1 (head?_legend palette)
      rw [hmore]
      rfl
  | cons node nodes =>
      rw [List.map_cons, String.join_cons, String.toList_append,
        List.append_assoc]
      exact readEdge?_nodeStatement palette node _

/-- The calls are read back from a description of any graph in any colours. -/
theorem edgesOfDot_toDot (palette : Palette) (graph : Graph) :
    edgesOfDot (graph.toDot palette) = graph.edges.toList := by
  have hparts : (graph.toDot palette).toList =
      header.toList ++ ((String.join (graph.edges.toList.map edgeStatement)).toList
        ++ ((String.join (graph.nodes.map (nodeStatement palette))).toList ++
          ((legend palette).toList ++ "\x7d\n".toList))) := by
    simp only [Graph.toDot, String.toList_append, List.append_assoc]
  rw [edgesOfDot, hparts, isPrefixOf?_append, Option.elim_some]
  exact readEdges_edgeStatements _ (readEdge?_nodes palette _ _)

/-- A description determines the calls and their order, whatever characters the
names and the colours hold: one reader, which is told neither the graph nor the
palette, reads them back, and graphs with the same description in any two
palettes have the same calls. -/
theorem toDot_determines_edges :
    (∀ (palette : Palette) (graph : Graph),
      edgesOfDot (graph.toDot palette) = graph.edges.toList) ∧
      ∀ (firstPalette secondPalette : Palette) (first second : Graph),
        first.toDot firstPalette = second.toDot secondPalette →
          first.edges.toList = second.edges.toList := by
  refine ⟨edgesOfDot_toDot, ?_⟩
  intro firstPalette secondPalette first second htext
  rw [← edgesOfDot_toDot firstPalette first, htext, edgesOfDot_toDot]

/-- What stands between the colour of the last node and the first colour of the
legend. -/
def untilLegend : String :=
  ", style=filled];\nsubgraph cluster_legend \x7b\nlabel=\"Legend\";\n"
    ++ "key [label=<<TABLE BORDER=\"0\" CELLBORDER=\"1\" CELLSPACING=\"0\">\n"
    ++ "<TR><TD BGCOLOR=\""

/-- What stands between the two colours of the legend. -/
def insideLegend : String :=
  "\">Class</TD></TR>\n<TR><TD BGCOLOR=\""

/-- The colours of a palette cannot be read back: these two palettes give a
graph with one node the same description. Its only call can, although the name
looks like a call itself and ends in a backslash. -/
theorem toDot_determines_edges_loop :
    let first : Palette :=
      ⟨insideLegend ++ untilLegend ++ "gray" ++ insideLegend ++ untilLegend, ""⟩
    let second : Palette := ⟨"gray", untilLegend ++ insideLegend⟩
    let loop : Extension := .edge "a\" -> \"b\\" "a\" -> \"b\\"
    first ≠ second ∧
      (run [loop, loop]).toDot first = (run [.edge "" "b", loop]).toDot second ∧
      (run [loop, loop]).edges.toList = (run [.edge "" "b", loop]).edges.toList ∧
      edgesOfDot ((run [loop, loop]).toDot first) =
        [⟨"a\" -> \"b\\", "a\" -> \"b\\"⟩] := by
  intro first second loop
  have htext : (run [loop, loop]).toDot first =
      (run [.edge "" "b", loop]).toDot second := by decide +kernel
  refine ⟨by decide +kernel, htext,
    toDot_determines_edges.2 first second _ _ htext, ?_⟩
  rw [toDot_determines_edges.1]
  decide +kernel

end JavaSurvey.CallGraph
