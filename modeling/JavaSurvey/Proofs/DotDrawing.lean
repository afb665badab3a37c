import JavaSurvey.Proofs.DotStatements
import JavaSurvey.Proofs.DotText
import JavaSurvey.Proofs.GraphNodes

/-!
# What the description of a call graph draws

The description of a graph, read as a text of the DOT language, is a drawing of its
calls, of its nodes in their colours, and of a legend. Quoting keeps names apart,
so different names are different nodes of the drawing. The node of the legend is
the exception: it is written as a bare word, `key`, and nothing keeps it from being
the name of a method too.

The colours of the palette are written as they are, so what is said here is about
palettes in which each of them is one name, bare or quoted.

## Main results

* `identifier_injective`: quoted names are told apart.
* `described?_toDot`: the drawing, for every graph.
* `legendApart_iff_no_key`: the legend stands apart exactly if nothing in the graph
  is called `key`.
-/

namespace JavaSurvey.CallGraph

open Dot

/-! ## Names -/

/-- A character of a name in an identifier. -/
def identifierChar (c : Char) : List Char :=
  if c == '\\' then ['\\', '\\'] else [c]

/-- The identifier that a quoted name is read as. Backslashes stay doubled. -/
def identifier (name : String) : String :=
  String.ofList (name.toList.flatMap identifierChar)

theorem quoted?_escapeChar_append (c : Char) (text : List Char) :
    quoted? (escapeChar c ++ text) =
      (quoted? text).map fun (name, rest) => (identifierChar c ++ name, rest) := by
  rcases escapeChar_cases c with rfl | rfl | ⟨hbackslash, hquote, hplain⟩
  · rfl
  · rfl
  · have hidentifier : identifierChar c = [c] := by
      simp [identifierChar, hbackslash]
    rw [hplain, hidentifier, List.singleton_append, quoted?]
    · rfl
    · exact hquote
    · intro _ _ hc
      exact absurd hc hbackslash

theorem quoted?_escaped (name rest : List Char) :
    quoted? (name.flatMap escapeChar ++ '"' :: rest) =
      some (name.flatMap identifierChar, rest) := by
  induction name with
  | nil => rfl
  | cons c name ih =>
      rw [List.flatMap_cons, List.append_assoc, quoted?_escapeChar_append, ih]
      rfl

theorem gives_quote (name : String) :
    Gives lexStep (quote name).toList [.name (identifier name)] := by
  rw [toList_quote]
  refine gives_of_step (List.cons_ne_nil _ _) fun rest => ?_
  rw [List.cons_append, List.append_assoc, List.singleton_append, lexStep,
    if_neg (by decide), lexeme?, quoted?_escaped]
  rfl

theorem eq_of_flatMap_identifierChar {first second : List Char}
    (h : first.flatMap identifierChar = second.flatMap identifierChar) :
    first = second := by
  have hhead : ∀ c, ∃ more, identifierChar c = c :: more := by
    intro c
    by_cases hc : c = '\\'
    · exact ⟨['\\'], by simp [identifierChar, hc]⟩
    · exact ⟨[], by simp [identifierChar, hc]⟩
  induction first generalizing second with
  | nil =>
      cases second with
      | nil => rfl
      | cons d second =>
          obtain ⟨more, hmore⟩ := hhead d
          simp [hmore] at h
  | cons c first ih =>
      cases second with
      | nil =>
          obtain ⟨more, hmore⟩ := hhead c
          simp [hmore] at h
      | cons d second =>
          rw [List.flatMap_cons, List.flatMap_cons] at h
          have hcd : c = d := by
            obtain ⟨more, hmore⟩ := hhead c
            obtain ⟨other, hother⟩ := hhead d
            rw [hmore, hother] at h
            exact (List.cons.inj h).1
          subst hcd
          rw [ih (List.append_cancel_left h)]

theorem identifier_injective : Function.Injective identifier := by
  intro first second h
  refine String.toList_inj.1 (eq_of_flatMap_identifierChar ?_)
  exact String.ofList_injective h

/-! ## Colours -/

/-- The name that a colour stands for in front of a comma, if it is one name and
no angle bracket stands in it. -/
def colorName? (color : String) : Option String :=
  match lexStep (color.toList ++ [',']) with
  | some ([.name name], [',']) =>
    if color.toList.all fun c => c != '<' && c != '>' then some name else none
  | _ => none

theorem colorName?_eq_some {color name : String} (h : colorName? color = some name) :
    lexStep (color.toList ++ [',']) = some ([.name name], [',']) ∧
      ∀ c ∈ color.toList, c ≠ '<' ∧ c ≠ '>' := by
  rw [colorName?] at h
  split at h
  next found hfound =>
    split at h
    next hall =>
      cases h
      refine ⟨hfound, fun c hc => ?_⟩
      simpa using List.all_eq_true.1 hall c hc
    next => cases h
  next => cases h

theorem gives_color {color name : String} (h : colorName? color = some name) :
    Gives lexStep (color.toList ++ [',']) [.name name, .mark ','] := by
  refine gives_of_closed 2 ?_ ?_
  · rw [isClosed, List.getLast?_concat]
    rfl
  · obtain ⟨hstep, -⟩ := colorName?_eq_some h
    obtain ⟨first, rest, hsplit⟩ :=
      List.exists_cons_of_ne_nil (List.concat_ne_nil ',' color.toList)
    rw [hsplit] at hstep ⊢
    rw [readWith_of_step hstep]
    rfl

/-- Whether both colours of a palette are names. -/
def Palette.Named (palette : Palette) : Prop :=
  ∀ cls, (colorName? (palette.colorOf cls)).isSome = true

/-- The name of the colour of a class of nodes. -/
def Palette.nameOf (palette : Palette) (cls : NodeClass) : String :=
  (colorName? (palette.colorOf cls)).getD ""

theorem Palette.Named.colorName? {palette : Palette} (h : palette.Named)
    (cls : NodeClass) :
    colorName? (palette.colorOf cls) = some (palette.nameOf cls) := by
  obtain ⟨name, hname⟩ := Option.isSome_iff_exists.1 (h cls)
  rw [nameOf, hname, Option.getD_some]

/-- Whether the colours of a palette can be read in the description of a graph:
those of its nodes are names, and the legend has no angle bracket in a colour. -/
structure Palette.Fits (palette : Palette) (graph : Graph) : Prop where
  names : ∀ node ∈ graph.nodes,
    colorName? (palette.colorOf node.cls) = some (palette.nameOf node.cls)
  angles : ∀ cls, ∀ c ∈ (palette.colorOf cls).toList, c ≠ '<' ∧ c ≠ '>'

theorem Palette.Named.fits {palette : Palette} (h : palette.Named) (graph : Graph) :
    palette.Fits graph where
  names node _ := h.colorName? node.cls
  angles cls := (colorName?_eq_some (h.colorName? cls)).2

theorem Palette.named_default : Palette.Named {} := by
  intro cls
  cases cls <;> decide +kernel

/-! ## Lexemes -/

/-- The lexemes that a description begins with. -/
def headerLexemes : List Lexeme :=
  [.keyword "digraph", .name "CallGraph", .mark '\x7b', .keyword "node", .mark '[',
    .name "shape", .mark '=', .name "rectangle", .mark ',', .name "style", .mark '=',
    .name "filled", .mark ']', .mark ';']

theorem gives_header : Gives lexStep header.toList headerLexemes :=
  gives_of_closed 100 (by decide +kernel) (by decide +kernel)

/-- The lexemes of a call. -/
def edgeLexemes (edge : Edge) : List Lexeme :=
  [.name (identifier edge.caller), .arrow, .name (identifier edge.callee), .mark ';']

theorem gives_edgeStatement (edge : Edge) :
    Gives lexStep (edgeStatement edge).toList (edgeLexemes edge) := by
  have harrow : Gives lexStep " -> ".toList [.arrow] :=
    gives_of_closed 5 (by decide +kernel) (by decide +kernel)
  have hend : Gives lexStep ";\n".toList [.mark ';'] :=
    gives_of_closed 5 (by decide +kernel) (by decide +kernel)
  rw [edgeStatement, String.toList_append, String.toList_append, String.toList_append]
  exact (((gives_quote edge.caller).append harrow).append
    (gives_quote edge.callee)).append hend

/-- The lexemes of a node. -/
def nodeLexemes (palette : Palette) (node : CallNode) : List Lexeme :=
  [.name (identifier node.name), .mark '[', .name "fillcolor", .mark '=',
    .name (palette.nameOf node.cls), .mark ',', .name "style", .mark '=',
    .name "filled", .mark ']', .mark ';']

theorem gives_nodeStatement {palette : Palette} {node : CallNode}
    (h : colorName? (palette.colorOf node.cls) = some (palette.nameOf node.cls)) :
    Gives lexStep (nodeStatement palette node).toList (nodeLexemes palette node) := by
  have hopen : Gives lexStep " [fillcolor=".toList
      [.mark '[', .name "fillcolor", .mark '='] :=
    gives_of_closed 20 (by decide +kernel) (by decide +kernel)
  have hend : Gives lexStep " style=filled];\n".toList
      [.name "style", .mark '=', .name "filled", .mark ']', .mark ';'] :=
    gives_of_closed 20 (by decide +kernel) (by decide +kernel)
  have hparts : (nodeStatement palette node).toList =
      (quote node.name).toList ++ " [fillcolor=".toList ++
        ((palette.colorOf node.cls).toList ++ [',']) ++ " style=filled];\n".toList := by
    simp [nodeStatement]
  rw [hparts]
  exact (((gives_quote node.name).append hopen).append
    (gives_color h)).append hend

/-- The text that the legend has between angle brackets. -/
def legendTable (palette : Palette) : String :=
  "<TABLE BORDER=\"0\" CELLBORDER=\"1\" CELLSPACING=\"0\">\n"
    ++ legendRow palette.classColor "Class"
    ++ legendRow palette.methodColor "Method"
    ++ "</TABLE>"

theorem nesting_legendRow {color : String}
    (h : ∀ c ∈ color.toList, c ≠ '<' ∧ c ≠ '>') (label : String)
    (hlabel : nesting 0 label.toList = some 0) :
    nesting 0 (legendRow color label).toList = some 0 := by
  have hopen : nesting 0 "<TR><TD BGCOLOR=\"".toList = some 1 := by decide +kernel
  have hinside : nesting 1 "\">".toList = some 0 := by decide +kernel
  have hend : nesting 0 "</TD></TR>\n".toList = some 0 := by decide +kernel
  unfold legendRow
  simp only [String.toList_append]
  exact nesting_append (nesting_append (nesting_append (nesting_append hopen
    (nesting_of_forall h 1)) hinside) hlabel) hend

theorem nesting_legendTable {palette : Palette}
    (h : ∀ cls, ∀ c ∈ (palette.colorOf cls).toList, c ≠ '<' ∧ c ≠ '>') :
    nesting 0 (legendTable palette).toList = some 0 := by
  have hopen : nesting 0
      "<TABLE BORDER=\"0\" CELLBORDER=\"1\" CELLSPACING=\"0\">\n".toList = some 0 := by
    decide +kernel
  have hclass := nesting_legendRow (h .classLike) "Class" (by decide +kernel)
  have hmethod := nesting_legendRow (h .methodLike) "Method" (by decide +kernel)
  have hend : nesting 0 "</TABLE>".toList = some 0 := by decide +kernel
  unfold legendTable
  simp only [String.toList_append]
  exact nesting_append (nesting_append (nesting_append hopen hclass) hmethod) hend

/-- The lexemes of the legend and the end of the description. -/
def legendLexemes (palette : Palette) : List Lexeme :=
  [.keyword "subgraph", .name "cluster_legend", .mark '\x7b', .name "label", .mark '=',
    .name "Legend", .mark ';', .name "key", .mark '[', .name "label", .mark '=',
    .markup (legendTable palette), .mark ',', .name "shape", .mark '=',
    .name "plaintext", .mark ']', .mark '\x7d', .mark '\x7d']

theorem gives_legend {palette : Palette}
    (h : ∀ cls, ∀ c ∈ (palette.colorOf cls).toList, c ≠ '<' ∧ c ≠ '>') :
    Gives lexStep ((legend palette).toList ++ "\x7d\n".toList)
      (legendLexemes palette) := by
  have hopen : Gives lexStep
      "subgraph cluster_legend \x7b\nlabel=\"Legend\";\nkey [label=".toList
      [.keyword "subgraph", .name "cluster_legend", .mark '\x7b', .name "label",
        .mark '=', .name "Legend", .mark ';', .name "key", .mark '[', .name "label",
        .mark '='] :=
    gives_of_closed 100 (by decide +kernel) (by decide +kernel)
  have hend : Gives lexStep ", shape=plaintext]\n\x7d\n\x7d\n".toList
      [.mark ',', .name "shape", .mark '=', .name "plaintext", .mark ']',
        .mark '\x7d', .mark '\x7d'] :=
    gives_of_closed 100 (by decide +kernel) (by decide +kernel)
  -- The brackets around the table stand inside literals, which are cut there.
  have hleft : "subgraph cluster_legend \x7b\nlabel=\"Legend\";\n".toList ++
      "key [label=<<TABLE BORDER=\"0\" CELLBORDER=\"1\" CELLSPACING=\"0\">\n".toList =
      "subgraph cluster_legend \x7b\nlabel=\"Legend\";\nkey [label=".toList ++
        '<' :: "<TABLE BORDER=\"0\" CELLBORDER=\"1\" CELLSPACING=\"0\">\n".toList := by
    decide +kernel
  have hright : "</TABLE>>, shape=plaintext]\n\x7d\n".toList ++ "\x7d\n".toList =
      "</TABLE>".toList ++ '>' :: ", shape=plaintext]\n\x7d\n\x7d\n".toList := by
    decide +kernel
  have hparts : (legend palette).toList ++ "\x7d\n".toList =
      "subgraph cluster_legend \x7b\nlabel=\"Legend\";\nkey [label=".toList ++
        ('<' :: ((legendTable palette).toList ++ ['>'])) ++
          ", shape=plaintext]\n\x7d\n\x7d\n".toList := by
    unfold legend legendTable
    simp only [String.toList_append, hleft, hright, List.append_assoc, List.cons_append,
      List.nil_append]
  rw [hparts]
  have hall := (hopen.append (gives_markup (nesting_legendTable h))).append hend
  rw [String.ofList_toList] at hall
  exact hall

/-! ## Statements -/

theorem toList_join_map {α : Type} (items : List α) (write : α → String) :
    (String.join (items.map write)).toList =
      items.flatMap fun item => (write item).toList := by
  rw [String.toList_join, List.flatMap_map]

/-- The lexemes of a description behind its first three. -/
def bodyLexemes (palette : Palette) (graph : Graph) : List Lexeme :=
  headerLexemes.drop 3 ++ graph.edges.toList.flatMap edgeLexemes ++
    graph.nodes.flatMap (nodeLexemes palette) ++ legendLexemes palette

theorem readAll_toDot {palette : Palette} {graph : Graph} (h : palette.Fits graph) :
    readAll lexStep (graph.toDot palette).toList =
      some (.keyword "digraph" :: .name "CallGraph" :: .mark '\x7b' ::
        bodyLexemes palette graph) := by
  have hparts : (graph.toDot palette).toList =
      header.toList
        ++ (graph.edges.toList.flatMap fun edge => (edgeStatement edge).toList)
        ++ (graph.nodes.flatMap fun node => (nodeStatement palette node).toList)
        ++ ((legend palette).toList ++ "\x7d\n".toList) ++ [] := by
    simp only [Graph.toDot, String.toList_append, toList_join_map, List.append_assoc,
      List.append_nil]
  have hgives := ((gives_header.append
    (Gives.flatMap fun edge (_ : edge ∈ graph.edges.toList) =>
      gives_edgeStatement edge)).append
    (Gives.flatMap fun node hnode =>
      gives_nodeStatement (h.names node hnode))).append (gives_legend h.angles)
  have hend : readWith lexStep 0 [] = some [] := rfl
  rw [hparts, readAll_of_gives shortens_lexStep hgives hend, List.append_nil]
  rfl

/-- The statement of a call. -/
def edgeRead (edge : Edge) : Statement :=
  .edge (identifier edge.caller) (identifier edge.callee)

/-- The attributes of a node. -/
def nodeAttributes (palette : Palette) (node : CallNode) : Attributes :=
  [("fillcolor", .text (palette.nameOf node.cls)), ("style", .text "filled")]

/-- The attributes of the legend's own node. -/
def legendAttributes (palette : Palette) : Attributes :=
  [("label", .markup (legendTable palette)), ("shape", .text "plaintext")]

theorem gives_edgeLexemes (edge : Edge) :
    Gives statementStep (edgeLexemes edge) [edgeRead edge] :=
  gives_of_step (List.cons_ne_nil _ _) fun _ => rfl

theorem gives_nodeLexemes (palette : Palette) (node : CallNode) :
    Gives statementStep (nodeLexemes palette node)
      [.node (identifier node.name) (nodeAttributes palette node)] :=
  gives_of_step (List.cons_ne_nil _ _) fun _ => rfl

/-- The statement that a description begins with. -/
def defaultsRead : Statement :=
  .defaults "node" [("shape", .text "rectangle"), ("style", .text "filled")]

/-- The statements of the legend and the end of the description. -/
def legendRead (palette : Palette) : List Statement :=
  [.opening "cluster_legend", .setting "label" (.text "Legend"),
    .node "key" (legendAttributes palette), .closing, .closing]

/-- The statements of a description. -/
def statements (palette : Palette) (graph : Graph) : List Statement :=
  defaultsRead :: (graph.edges.toList.map edgeRead ++
    (graph.nodes.map fun node =>
      .node (identifier node.name) (nodeAttributes palette node)) ++
    legendRead palette)

theorem readAll_bodyLexemes (palette : Palette) (graph : Graph) :
    readAll statementStep (bodyLexemes palette graph) =
      some (statements palette graph) := by
  have hdefaults : Gives statementStep (headerLexemes.drop 3) [defaultsRead] :=
    gives_of_step (by decide) fun _ => rfl
  have hgives := (hdefaults.append
    (Gives.flatMap fun edge (_ : edge ∈ graph.edges.toList) =>
      gives_edgeLexemes edge)).append
    (Gives.flatMap fun node (_ : node ∈ graph.nodes) =>
      gives_nodeLexemes palette node)
  -- The last closing brace gives its statement at the end of the text only, so the
  -- legend is read where it stands.
  have hend : readWith statementStep 5 (legendLexemes palette) =
      some (legendRead palette) := rfl
  rw [bodyLexemes, readAll_of_gives shortens_statementStep hgives hend, statements,
    List.map_eq_flatMap, List.map_eq_flatMap]
  rfl

theorem statements?_toDot {palette : Palette} {graph : Graph} (h : palette.Fits graph) :
    statements? (graph.toDot palette) = some (statements palette graph) := by
  rw [statements?_of_lexemes (readAll_toDot h), readAll_bodyLexemes]

/-! ## What is described -/

/-- Calls mention their ends. The nodes at any time are the first occurrences among
all mentions so far. -/
theorem describe_edges (edges : List Edge) (nodes : List String) (calls attributes)
    (rest : List Statement) :
    describe [] ⟨nodes.eraseDups, calls, [], attributes⟩ (edges.map edgeRead ++ rest) =
      describe []
        ⟨(nodes ++ edges.flatMap fun edge =>
            [identifier edge.caller, identifier edge.callee]).eraseDups,
          calls ++ edges.map fun edge =>
            (identifier edge.caller, identifier edge.callee),
          [], attributes⟩ rest := by
  induction edges generalizing nodes calls with
  | nil => simp
  | cons edge edges ih =>
      rw [List.map_cons, List.cons_append, edgeRead, describe,
        Description.mention_eraseDups, Description.mention_eraseDups]
      simp only [List.map_nil, List.append_nil]
      rw [ih]
      simp only [List.flatMap_cons, List.map_cons, List.append_assoc, List.cons_append,
        List.nil_append]

theorem describe_nodes (palette : Palette) (callNodes : List CallNode)
    (nodes : List String) (calls attributes) (rest : List Statement) :
    describe [] ⟨nodes.eraseDups, calls, [], attributes⟩
        ((callNodes.map fun node =>
          .node (identifier node.name) (nodeAttributes palette node)) ++ rest) =
      describe []
        ⟨(nodes ++ callNodes.map fun node => identifier node.name).eraseDups, calls, [],
          attributes ++ callNodes.map fun node =>
            (identifier node.name, nodeAttributes palette node)⟩ rest := by
  induction callNodes generalizing nodes attributes with
  | nil => simp
  | cons node callNodes ih =>
      rw [List.map_cons, List.cons_append, describe, Description.mention_eraseDups]
      simp only [List.map_nil, List.append_nil]
      rw [ih]
      simp only [List.map_cons, List.append_assoc, List.cons_append, List.nil_append]

/-- What the description of a graph describes. -/
def drawing (palette : Palette) (graph : Graph) : Description where
  nodes := (graph.ends.map identifier ++ ["key"]).eraseDups
  edges := graph.edges.toList.map fun edge =>
    (identifier edge.caller, identifier edge.callee)
  members := [("cluster_legend", "key")]
  attributes :=
    (graph.nodes.map fun node => (identifier node.name, nodeAttributes palette node)) ++
      [("key", legendAttributes palette)]

/-- The description of any graph is read as its drawing. -/
theorem described?_toDot {palette : Palette} (h : palette.Named) (graph : Graph) :
    described? (graph.toDot palette) = some (drawing palette graph) := by
  have hends : (graph.edges.toList.flatMap fun edge =>
      [identifier edge.caller, identifier edge.callee]) =
      graph.ends.map identifier := by
    rw [Graph.ends, List.map_flatMap]
    rfl
  have hsubset : (graph.nodes.map fun node => identifier node.name) ⊆
      graph.ends.map identifier := by
    intro name hname
    obtain ⟨node, hnode, rfl⟩ := List.mem_map.1 hname
    exact List.mem_map_of_mem (Graph.name_mem_ends hnode)
  have hnodes := Data.eraseDups_append_of_subset ["key"] hsubset
  rw [described?, statements?_toDot (h.fits graph), Option.bind_some, statements,
    defaultsRead, describe, List.append_assoc]
  have hempty : ({} : Description) = ⟨([] : List String).eraseDups, [], [], []⟩ := rfl
  rw [hempty, describe_edges, describe_nodes]
  simp only [legendRead, describe, Description.mention_eraseDups, List.nil_append,
    hends, hnodes]
  rfl

theorem identifier_eq_key_iff (name : String) :
    identifier name = "key" ↔ name = "key" := by
  have hkey : identifier "key" = "key" := by decide
  constructor
  · intro h
    exact identifier_injective (h.trans hkey.symm)
  · rintro rfl
    exact hkey

section Drawing

variable {graph : Graph} (h : ∀ edge ∈ graph.edges.toList, edge.Named)
  (palette : Palette)

include h

/-- The nodes that are drawn: those of the graph, and `key` last unless it is one
of them. -/
theorem nodes_drawing :
    (drawing palette graph).nodes =
      ((graph.nodes.map fun node => identifier node.name) ++ ["key"]).eraseDups := by
  have hnames : graph.ends.eraseDups = graph.nodes.map (·.name) := by
    rw [Graph.map_name_nodes h, Graph.toList_endpoints]
    rfl
  unfold drawing
  rw [← Data.eraseDups_eraseDups_append, Data.eraseDups_map identifier_injective,
    hnames, List.map_map]
  rfl

theorem nodup_identifiers :
    (graph.nodes.map fun node => identifier node.name).Nodup := by
  have hnames : (graph.nodes.map (·.name)).Nodup := (nodesAreEnds h).once
  have hidentifiers := hnames.map identifier_injective
  rwa [List.map_map] at hidentifiers

theorem nodes_drawing_of_apart (hkey : ∀ node ∈ graph.nodes, node.name ≠ "key") :
    (drawing palette graph).nodes =
      (graph.nodes.map fun node => identifier node.name) ++ ["key"] := by
  rw [nodes_drawing h, Data.eraseDups_of_nodup]
  rw [← List.concat_eq_append, List.nodup_concat]
  refine ⟨?_, nodup_identifiers h⟩
  intro hmem
  obtain ⟨node, hnode, hname⟩ := List.mem_map.1 hmem
  exact hkey node hnode ((identifier_eq_key_iff _).1 hname)

theorem nodes_drawing_of_key {node : CallNode} (hnode : node ∈ graph.nodes)
    (hkey : node.name = "key") :
    (drawing palette graph).nodes =
      graph.nodes.map fun node => identifier node.name := by
  have hmem : "key" ∈ graph.nodes.map fun node => identifier node.name :=
    List.mem_map.2 ⟨node, hnode, (identifier_eq_key_iff _).2 hkey⟩
  rw [nodes_drawing h, Data.eraseDups_concat, if_pos hmem,
    Data.eraseDups_of_nodup (nodup_identifiers h)]

end Drawing

/-- What is drawn as a table in the legend's cluster. -/
theorem membersOf_drawing (palette : Palette) (graph : Graph) :
    (drawing palette graph).membersOf "cluster_legend" = ["key"] :=
  rfl

theorem label_mem_attributesOf_drawing (palette : Palette) (graph : Graph)
    (name table : String) :
    ("label", .markup table) ∈ (drawing palette graph).attributesOf name ↔
      name = "key" ∧ table = legendTable palette := by
  rw [Description.mem_attributesOf]
  constructor
  · rintro ⟨attributes, hentry, hlabel⟩
    rcases List.mem_append.1 hentry with hnode | hkey
    · obtain ⟨node, _, heq⟩ := List.mem_map.1 hnode
      cases heq
      simp [nodeAttributes] at hlabel
    · cases List.mem_singleton.1 hkey
      simpa [legendAttributes] using hlabel
  · rintro ⟨rfl, rfl⟩
    refine ⟨legendAttributes palette, ?_, List.mem_cons_self⟩
    exact List.mem_append_right _ (List.mem_singleton.2 rfl)

/-- The legend stands apart from the nodes of a graph in a description. -/
structure LegendApart (graph : Graph) (description : Description) : Prop where
  outside : ∀ node ∈ graph.nodes,
    identifier node.name ∉ description.membersOf "cluster_legend"
  /-- The legend is one node more than the graph has. -/
  one_more : description.nodes.length = graph.nodes.length + 1
  /-- No node of the graph has the table for its label. -/
  no_table : ∀ node ∈ graph.nodes, ∀ table,
    ("label", .markup table) ∉ description.attributesOf (identifier node.name)

/-- A description in colours that are names is read as a graph with the legend apart
exactly if no name in the graph is `key`. A node with this name is the node of the
legend: it stands in its cluster, its label is the table, and no node is drawn
besides those of the graph. -/
theorem legendApart_iff_no_key {palette : Palette} (h : palette.Named)
    (extensions : List Extension) :
    ∃ description, described? ((run extensions).toDot palette) = some description ∧
      description.nodes.Nodup ∧
      description.membersOf "cluster_legend" = ["key"] ∧
      (LegendApart (run extensions) description ↔
        ∀ node ∈ (run extensions).nodes, node.name ≠ "key") ∧
      ∀ node ∈ (run extensions).nodes, node.name = "key" →
        description.nodes =
            ((run extensions).nodes.map fun node => identifier node.name) ∧
          identifier node.name ∈ description.membersOf "cluster_legend" ∧
          ("label", .markup (legendTable palette)) ∈
            description.attributesOf (identifier node.name) := by
  have hnamed : ∀ edge ∈ (run extensions).edges.toList, edge.Named :=
    fun _ hedge => named_of_mem_run hedge
  refine ⟨_, described?_toDot h _, Data.nodup_eraseDups _, membersOf_drawing _ _,
    ?_, ?_⟩
  · constructor
    · rintro hapart node hnode hkey
      refine hapart.outside node hnode ?_
      rw [membersOf_drawing, List.mem_singleton]
      exact (identifier_eq_key_iff _).2 hkey
    · intro hkey
      have hne : ∀ node ∈ (run extensions).nodes, identifier node.name ≠ "key" :=
        fun node hnode => mt (identifier_eq_key_iff _).1 (hkey node hnode)
      exact
        { outside := by
            intro node hnode
            rw [membersOf_drawing, List.mem_singleton]
            exact hne node hnode
          one_more := by
            rw [nodes_drawing_of_apart hnamed palette hkey, List.length_append,
              List.length_map, List.length_singleton]
          no_table := by
            intro node hnode table
            rw [label_mem_attributesOf_drawing]
            exact fun hlabel => hne node hnode hlabel.1 }
  · intro node hnode hkey
    have hidentifier := (identifier_eq_key_iff _).2 hkey
    refine ⟨nodes_drawing_of_key hnamed palette hnode hkey, ?_, ?_⟩
    · rw [membersOf_drawing, List.mem_singleton]
      exact hidentifier
    · rw [label_mem_attributesOf_drawing]
      exact ⟨hidentifier, rfl⟩

/-- Names that only resemble `key` leave the legend apart. -/
theorem legendApart_iff_no_key_resembling :
    ∃ description,
      described? ((run [.edge "Key" "keys", .edge "keys" "\"key\""]).toDot {}) =
          some description ∧
        description.nodes.length = 4 ∧
        description.membersOf "cluster_legend" = ["key"] := by
  obtain ⟨description, hdescribed, _, hlegend, hapart, _⟩ :=
    legendApart_iff_no_key Palette.named_default
      [.edge "Key" "keys", .edge "keys" "\"key\""]
  refine ⟨description, hdescribed, ?_, hlegend⟩
  exact (hapart.2 (by decide +kernel)).one_more

/-- A method called `key` that calls another one: two nodes are described and not
three, and the first of them is the legend. -/
theorem key_drawn_as_legend :
    ∃ description, described? ((run [.edge "key" "run"]).toDot {}) = some description ∧
      (run [.edge "key" "run"]).nodes = [⟨"key", .methodLike⟩, ⟨"run", .methodLike⟩] ∧
      description.nodes = ["key", "run"] ∧
      description.edges = [("key", "run")] ∧
      description.membersOf "cluster_legend" = ["key"] ∧
      ¬ LegendApart (run [.edge "key" "run"]) description := by
  refine ⟨_, described?_toDot Palette.named_default _, by decide +kernel,
    by decide +kernel, by decide +kernel, rfl, ?_⟩
  intro hapart
  exact absurd hapart.one_more (by decide +kernel)

end JavaSurvey.CallGraph
