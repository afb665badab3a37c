import JavaSurvey.Proofs.GraphOfFiles
import Mathlib.Algebra.Group.Nat.Defs
import Mathlib.Data.List.Perm.Subperm
import Mathlib.Data.List.ProdSigma

/-!
# The nodes of a call graph

The nodes of a graph are computed from its edges twice over: the ends of the
edges are gathered without repetition, and a name without a class is left out.
Only the empty name has no class, and no graph that extensions can reach has it
at the end of an edge. So nothing is left out, and the nodes are the first
occurrences in the row of all callers and callees.

Each figure of a graph is then the length of a list without duplicates whose
members all stand in another list, and that other list is at least as long.

## Main results

* `NodeClass.of?_eq_none_iff`: only the empty name has no class.
* `Graph.map_name_nodes`: the names of the nodes, if all edges have names.
* `nodes_and_stats_run`: the nodes and the figures of every graph that
  extensions can reach.
-/

namespace JavaSurvey.CallGraph

/-- Only the empty name has no class. -/
theorem NodeClass.of?_eq_none_iff (name : String) :
    NodeClass.of? name = none ↔ name = "" := by
  rw [NodeClass.of?, Option.map_eq_none_iff, List.head?_eq_none_iff,
    String.toList_eq_nil_iff]

namespace Graph

/-! ## Names and classes of nodes -/

/-- The ends of the edges, with repetition: a caller, its callee, the next
caller, and so on. -/
def ends (graph : Graph) : List String :=
  graph.edges.toList.flatMap fun edge => [edge.caller, edge.callee]

theorem mem_ends {graph : Graph} {name : String} :
    name ∈ graph.ends ↔
      ∃ edge ∈ graph.edges.toList, name = edge.caller ∨ name = edge.callee := by
  simp [ends, List.mem_flatMap]

/-- The nodes carry the classes of their names. -/
theorem cls_of_mem_nodes {graph : Graph} {node : CallNode}
    (h : node ∈ graph.nodes) : NodeClass.of? node.name = some node.cls := by
  rw [nodes, List.mem_filterMap] at h
  obtain ⟨name, _, hnode⟩ := h
  obtain ⟨cls, hcls, rfl⟩ := Option.map_eq_some_iff.1 hnode
  exact hcls

theorem name_mem_ends {graph : Graph} {node : CallNode} (h : node ∈ graph.nodes) :
    node.name ∈ graph.ends := by
  rw [nodes, List.mem_filterMap] at h
  obtain ⟨name, hname, hnode⟩ := h
  obtain ⟨cls, _, rfl⟩ := Option.map_eq_some_iff.1 hnode
  rwa [toList_endpoints, List.mem_eraseDups] at hname

/-- If all edges have names, then no end of an edge is left out. -/
theorem map_name_nodes {graph : Graph}
    (h : ∀ edge ∈ graph.edges.toList, edge.Named) :
    graph.nodes.map (·.name) = graph.endpoints.toList := by
  have hname : ∀ name ∈ graph.endpoints.toList,
      ((NodeClass.of? name).map fun cls => (⟨name, cls⟩ : CallNode)).map
        (·.name) = some name := by
    intro name hmem
    rw [toList_endpoints, List.mem_eraseDups] at hmem
    obtain ⟨edge, hedge, hend⟩ := mem_ends.1 hmem
    have hne : name ≠ "" := by
      rcases hend with rfl | rfl
      · exact (h edge hedge).1
      · exact (h edge hedge).2
    cases hcls : NodeClass.of? name with
    | none => exact absurd ((NodeClass.of?_eq_none_iff name).1 hcls) hne
    | some cls => rfl
  rw [nodes, List.map_filterMap, List.filterMap_congr hname,
    List.filterMap_some]

/-! ## Figures -/

/-- A list without duplicates is no longer than a list with all its members. -/
private theorem length_le_of_subset {α : Type} {first second : List α}
    (hnodup : first.Nodup) (hsubset : first ⊆ second) :
    first.length ≤ second.length :=
  (List.subperm_of_subset hnodup hsubset).length_le

/-- A node is in one class or in the other. -/
theorem methodLike_stats (graph : Graph) :
    graph.stats.methodLike =
      graph.nodes.countP fun node => node.cls == .methodLike := by
  have hother : (fun node : CallNode => node.cls == .methodLike) =
      fun node => decide ¬ (node.cls == NodeClass.classLike) = true := by
    funext node
    cases node.cls <;> rfl
  have hcount := List.length_eq_countP_add_countP (l := graph.nodes)
    fun node : CallNode => node.cls == NodeClass.classLike
  rw [hother]
  simp only [stats]
  omega

/-- Calls of a name to itself are different edges, so they have different
callers. -/
theorem selfCalls_le (graph : Graph) :
    graph.stats.selfCalls ≤ graph.endpoints.toList.length := by
  let loops := graph.edges.toList.filter fun edge => edge.caller == edge.callee
  have hnodup : (loops.map (·.caller)).Nodup := by
    refine List.Nodup.map_on ?_ (graph.edges.nodup.filter _)
    intro first hfirst second hsecond hcaller
    have hfirstLoop : first.caller = first.callee := by
      simpa using (List.mem_filter.1 hfirst).2
    have hsecondLoop : second.caller = second.callee := by
      simpa using (List.mem_filter.1 hsecond).2
    cases first
    cases second
    simp_all
  have hsubset : loops.map (·.caller) ⊆ graph.endpoints.toList := by
    intro name hname
    obtain ⟨edge, hedge, rfl⟩ := List.mem_map.1 hname
    rw [toList_endpoints, List.mem_eraseDups]
    exact mem_ends.2 ⟨edge, (List.mem_filter.1 hedge).1, Or.inl rfl⟩
  have hlength := length_le_of_subset hnodup hsubset
  rwa [List.length_map, ← List.countP_eq_length_filter] at hlength

/-- An edge is given by the pair of its ends. -/
theorem edgeCount_le (graph : Graph) :
    graph.edgeCount ≤ graph.endpoints.toList.length ^ 2 := by
  have hnodup : (graph.edges.toList.map Edge.ends).Nodup := by
    refine graph.edges.nodup.map ?_
    intro first second h
    cases first
    cases second
    simp_all [Edge.ends]
  have hsubset : graph.edges.toList.map Edge.ends ⊆
      graph.endpoints.toList ×ˢ graph.endpoints.toList := by
    intro pair hpair
    obtain ⟨edge, hedge, rfl⟩ := List.mem_map.1 hpair
    rw [Edge.ends, List.mem_product, toList_endpoints, List.mem_eraseDups,
      List.mem_eraseDups]
    exact ⟨mem_ends.2 ⟨edge, hedge, Or.inl rfl⟩,
      mem_ends.2 ⟨edge, hedge, Or.inr rfl⟩⟩
  have hlength := length_le_of_subset hnodup hsubset
  rwa [List.length_map, List.length_product, ← Nat.pow_two] at hlength

/-- The ends of an edge, once each. -/
private def distinctEnds (edge : Edge) : List String :=
  if edge.caller = edge.callee then [edge.caller] else [edge.caller, edge.callee]

private theorem length_distinctEnds (edges : List Edge) :
    (edges.flatMap distinctEnds).length +
        edges.countP (fun edge => edge.caller == edge.callee) =
      2 * edges.length := by
  induction edges with
  | nil => rfl
  | cons edge rest ih =>
      rw [List.flatMap_cons, List.length_append, List.countP_cons,
        List.length_cons, distinctEnds]
      by_cases hloop : edge.caller = edge.callee
      · rw [if_pos hloop, if_pos (by simpa using hloop)]
        simp only [List.length_singleton]
        omega
      · rw [if_neg hloop, if_neg (by simpa using hloop)]
        simp only [List.length_cons, List.length_nil]
        omega

/-- An edge has two ends, or one if it is a call of a name to itself. -/
theorem endpoints_add_selfCalls_le (graph : Graph) :
    graph.endpoints.toList.length + graph.stats.selfCalls ≤
      2 * graph.edgeCount := by
  have hsubset : graph.endpoints.toList ⊆
      graph.edges.toList.flatMap distinctEnds := by
    intro name hname
    rw [toList_endpoints, List.mem_eraseDups] at hname
    obtain ⟨edge, hedge, hend⟩ := mem_ends.1 hname
    refine List.mem_flatMap.2 ⟨edge, hedge, ?_⟩
    rw [distinctEnds]
    split <;> simp_all
  have hlength := length_le_of_subset graph.endpoints.nodup hsubset
  have hends := length_distinctEnds graph.edges.toList
  show _ + graph.edges.toList.countP _ ≤ 2 * graph.edges.toList.length
  omega

end Graph

/-! ## Reachable graphs -/

/-- The nodes of a graph are the ends of its edges. -/
structure NodesAreEnds (graph : Graph) : Prop where
  /-- Every end of an edge is a node, and nothing else is. -/
  mem_iff : ∀ name, (∃ node ∈ graph.nodes, node.name = name) ↔
    ∃ edge ∈ graph.edges.toList, name = edge.caller ∨ name = edge.callee
  /-- Each name comes once. -/
  once : (graph.nodes.map (·.name)).Nodup
  /-- Names come in the order in which they first appear at ends of edges. -/
  ordered : (graph.nodes.map (·.name)).Pairwise fun first second =>
    graph.ends.idxOf first < graph.ends.idxOf second
  classified : ∀ node ∈ graph.nodes, NodeClass.of? node.name = some node.cls
  /-- No end of an edge is left out for want of a class. -/
  none_dropped : graph.nodes.map (·.name) = graph.endpoints.toList

theorem nodesAreEnds {graph : Graph}
    (h : ∀ edge ∈ graph.edges.toList, edge.Named) : NodesAreEnds graph := by
  have hnames := Graph.map_name_nodes h
  exact
    { mem_iff := by
        intro name
        rw [← List.mem_map, hnames, Graph.toList_endpoints, List.mem_eraseDups]
        exact Graph.mem_ends
      once := hnames ▸ graph.endpoints.nodup
      ordered := by
        rw [hnames, Graph.toList_endpoints]
        exact Data.pairwise_idxOf_eraseDups graph.ends
      classified := fun _ hnode => Graph.cls_of_mem_nodes hnode
      none_dropped := hnames }

/-- The nodes of every graph that extensions can reach are the ends of its
edges, and its figures fit together. -/
theorem nodes_and_stats_run (extensions : List Extension) :
    NodesAreEnds (run extensions) ∧
      (run extensions).stats.classLike + (run extensions).stats.methodLike =
        (run extensions).stats.totalNodes ∧
      (run extensions).stats.methodLike =
        (run extensions).nodes.countP (fun node => node.cls == .methodLike) ∧
      (run extensions).stats.selfCalls ≤ (run extensions).stats.totalNodes ∧
      (run extensions).stats.totalCalls ≤
        (run extensions).stats.totalNodes ^ 2 ∧
      (run extensions).stats.totalNodes + (run extensions).stats.selfCalls ≤
        2 * (run extensions).stats.totalCalls := by
  have hnodes : NodesAreEnds (run extensions) :=
    nodesAreEnds fun _ hedge => named_of_mem_run hedge
  have hcount : (run extensions).stats.totalNodes =
      (run extensions).endpoints.toList.length := by
    rw [← hnodes.none_dropped, List.length_map]
    rfl
  refine ⟨hnodes, ?_, Graph.methodLike_stats _, ?_, ?_, ?_⟩
  · exact Nat.add_sub_cancel' List.countP_le_length
  · rw [hcount]
    exact Graph.selfCalls_le _
  · rw [hcount]
    exact Graph.edgeCount_le _
  · rw [hcount]
    exact Graph.endpoints_add_selfCalls_le _

end JavaSurvey.CallGraph
