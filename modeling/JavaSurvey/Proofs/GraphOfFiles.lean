import JavaSurvey.Proofs.GraphGrowth
import JavaSurvey.Proofs.KeptNodes

/-!
# The graph of a list of files

Files are folded into a graph one after the other, until one of them fails.
Whether that happens depends on the calls of the files alone, and the edges of the
result are the first occurrences of the calls of all files. It follows that

* the order of the files and their repetition can only change the order of
  edges, and no figure of the graph depends on that order;
* a copy of a file behind the file itself changes nothing at all.

The path of a file is none of its calls. So copies are files with the same calls in
the same order, as are two files with one text in different places.

## Main results

* `Graph.addUnits_eq_ok_iff`: when folding files succeeds, and with which graph.
* `Graph.perm_nodes`, `Graph.stats_eq_of_perm`: nodes and statistics depend on
  the set of edges only.
* `callEdges_eq_of_parse`: files with one text have the same calls.
* `addUnits_reordered_and_copied`: the two consequences above.
-/

namespace JavaSurvey.CallGraph

open Data (OrderedSet)
open Syntax (Node SourceUnit View)

namespace Graph

/-! ## Folding files -/

/-- Fold files into a graph, one after the other, until one of them fails. -/
def addUnits (graph : Graph) : List SourceUnit → Except EmptyName Graph
  | [] => .ok graph
  | unit :: rest =>
    match graph.addUnit unit with
    | (next, .ok _) => next.addUnits rest
    | (_, .error error) => .error error

/-- Folding succeeds exactly if all calls of all files have names, and then
inserts them in order. -/
theorem addUnits_eq_ok_iff (graph next : Graph) (units : List SourceUnit) :
    graph.addUnits units = .ok next ↔
      (∀ unit ∈ units, ∀ edge ∈ callEdges unit, edge.Named) ∧
        next = graph.insertAll (units.flatMap callEdges) := by
  induction units generalizing graph with
  | nil =>
      rw [addUnits, Except.ok.injEq]
      constructor
      · intro heq
        exact ⟨by simp, heq.symm⟩
      · intro h
        exact h.2.symm
  | cons unit rest ih =>
      rcases named_or_first_unnamed (callEdges unit) with
        hnamed | ⟨before, bad, after, hunit, hbefore, hbad⟩
      · rw [addUnits, addUnit_of_named graph hnamed, List.flatMap_cons,
          insertAll_append, List.forall_mem_cons]
        refine (ih _).trans ?_
        constructor
        · rintro ⟨hrest, hnext⟩
          exact ⟨⟨hnamed, hrest⟩, hnext⟩
        · rintro ⟨⟨_, hrest⟩, hnext⟩
          exact ⟨hrest, hnext⟩
      · rw [addUnits, addUnit_of_unnamed graph hunit hbefore hbad]
        constructor
        · intro h
          cases h
        · intro h
          have hnamed := h.1 unit List.mem_cons_self
          rw [hunit] at hnamed
          exact absurd hnamed (not_forall_named hbad)

theorem toList_insertAll_empty (edges : List Edge) :
    (empty.insertAll edges).edges.toList = edges.eraseDups :=
  toList_insertAll empty edges

/-- Edges that are there already change nothing. -/
theorem insertAll_of_subset {graph : Graph} {edges : List Edge}
    (h : edges ⊆ graph.edges.toList) : graph.insertAll edges = graph := by
  induction edges with
  | nil => rfl
  | cons edge edges ih =>
      obtain ⟨hedge, hedges⟩ := List.cons_subset.1 h
      have hinsert : graph.edges.insert edge = graph.edges := dif_pos hedge
      rw [insertAll, List.foldl_cons, hinsert]
      exact ih hedges

/-- A file whose calls are there already adds nothing. -/
theorem addUnit_of_subset {graph : Graph} {unit : SourceUnit}
    (hnamed : ∀ edge ∈ callEdges unit, edge.Named)
    (h : callEdges unit ⊆ graph.edges.toList) :
    graph.addUnit unit = (graph, .ok 0) := by
  have hgraph := insertAll_of_subset h
  have hcount := edgeCount_insertAll graph (callEdges unit)
  rw [hgraph] at hcount
  have hfresh : (graph.fresh (callEdges unit)).length = 0 := by omega
  rw [addUnit_of_named graph hnamed, hgraph, hfresh]

/-! ## What the set of edges determines -/

theorem toList_endpoints (graph : Graph) :
    graph.endpoints.toList =
      (graph.edges.toList.flatMap fun edge =>
        [edge.caller, edge.callee]).eraseDups :=
  OrderedSet.toList_ofList _

/-- Graphs with the same edges have the same nodes. -/
theorem perm_nodes {first second : Graph}
    (h : ∀ edge, edge ∈ first.edges.toList ↔ edge ∈ second.edges.toList) :
    first.nodes.Perm second.nodes := by
  rw [nodes, nodes, toList_endpoints, toList_endpoints]
  apply List.Perm.filterMap
  apply Data.perm_eraseDups
  intro name
  simp only [List.mem_flatMap, h]

/-- Graphs with the same edges have the same statistics: every figure counts
edges or nodes. -/
theorem stats_eq_of_perm {first second : Graph}
    (h : first.edges.toList.Perm second.edges.toList) :
    first.stats = second.stats := by
  have hnodes : first.nodes.Perm second.nodes := perm_nodes fun _ => h.mem_iff
  simp only [stats, edgeCount, h.length_eq, hnodes.length_eq, hnodes.countP_eq,
    h.countP_eq]

theorem perm_edges {first second : Graph}
    (h : ∀ edge, edge ∈ first.edges.toList ↔ edge ∈ second.edges.toList) :
    first.edges.toList.Perm second.edges.toList :=
  (List.perm_ext_iff_of_nodup first.edges.nodup second.edges.nodup).2 h

end Graph

/-! ## Copies -/

/-- The calls of a file do not depend on its path. That names the root, which is no
declaration. -/
theorem callEdges_toUnit (tree : Java.Tree) (path other : String) :
    callEdges (tree.toUnit path) = callEdges (tree.toUnit other) := by
  have hdeclarations : ∀ path, (tree.toUnit path).declarations =
      View.ofNodes .method
        ((Node.preorderAll tree.lowered).filter fun node => node.kind == .method) := by
    intro path
    rw [SourceUnit.declarations, Syntax.selectKind, Syntax.select_eq_filter,
      Node.preorder_eq, List.filter_cons_of_neg (by exact Bool.false_ne_true)]
    rfl
  rw [callEdges, callEdges, SourceUnit.callPairs, SourceUnit.callPairs,
    hdeclarations, hdeclarations]

/-- Files with one text have the same calls, wherever they are. -/
theorem callEdges_eq_of_parse {path other text : String} {unit copy : SourceUnit}
    (hunit : Java.parse path text = .ok unit)
    (hcopy : Java.parse other text = .ok copy) :
    callEdges copy = callEdges unit := by
  rw [(Java.eq_toUnit_of_parse hunit).1, (Java.eq_toUnit_of_parse hcopy).1]
  exact callEdges_toUnit _ _ _

/-- The second list arises from the first by putting copies of files somewhere
behind the files themselves, any number of times. A copy has the calls of a file in
the same order; its path may be another one. -/
inductive CopiesAdded (units : List SourceUnit) : List SourceUnit → Prop where
  | none : CopiesAdded units units
  | copy {before after : List SourceUnit} {unit : SourceUnit}
      (hunit : callEdges unit ∈ before.map callEdges)
      (h : CopiesAdded units (before ++ after)) :
      CopiesAdded units (before ++ unit :: after)

/-- Copies are copies: no other calls come in. -/
theorem CopiesAdded.mem_iff {units others : List SourceUnit}
    (h : CopiesAdded units others) (calls : List Edge) :
    calls ∈ others.map callEdges ↔ calls ∈ units.map callEdges := by
  induction h with
  | none => exact Iff.rfl
  | @copy before after copied hcopied _ ih =>
      rw [← ih, List.map_append, List.map_append, List.map_cons, List.mem_append,
        List.mem_append, List.mem_cons]
      constructor
      · rintro (hbefore | rfl | hafter)
        · exact Or.inl hbefore
        · exact Or.inl hcopied
        · exact Or.inr hafter
      · rintro (hbefore | hafter)
        · exact Or.inl hbefore
        · exact Or.inr (Or.inr hafter)

/-- The calls of a copied file are among those of the files it is a copy of. -/
theorem callEdges_subset {units : List SourceUnit} {copied : SourceUnit}
    (h : callEdges copied ∈ units.map callEdges) :
    callEdges copied ⊆ units.flatMap callEdges := by
  obtain ⟨unit, hunit, hsame⟩ := List.mem_map.1 h
  intro edge hedge
  exact List.mem_flatMap.2 ⟨unit, hunit, hsame ▸ hedge⟩

/-- Copies leave the first occurrences of calls where they are. -/
theorem CopiesAdded.eraseDups_callEdges {units others : List SourceUnit}
    (h : CopiesAdded units others) :
    (others.flatMap callEdges).eraseDups =
      (units.flatMap callEdges).eraseDups := by
  induction h with
  | none => rfl
  | @copy before after copied hcopied _ ih =>
      rw [← ih, List.flatMap_append, List.flatMap_append, List.flatMap_cons,
        ← List.append_assoc]
      exact Data.eraseDups_append_of_subset _ (callEdges_subset hcopied)

theorem named_of_calls {units : List SourceUnit}
    (hnamed : ∀ unit ∈ units, ∀ edge ∈ callEdges unit, edge.Named)
    {calls : List Edge} (h : calls ∈ units.map callEdges) :
    ∀ edge ∈ calls, edge.Named := by
  obtain ⟨unit, hunit, rfl⟩ := List.mem_map.1 h
  exact hnamed unit hunit

/-- Whether files fold into a graph depends on their calls: files that have only the
calls of files that do, do so too. -/
theorem addUnits_of_same_calls {units others : List SourceUnit} {graph : Graph}
    (h : Graph.empty.addUnits units = .ok graph)
    (hsame : ∀ calls, calls ∈ others.map callEdges → calls ∈ units.map callEdges) :
    Graph.empty.addUnits others =
      .ok (Graph.empty.insertAll (others.flatMap callEdges)) := by
  obtain ⟨hnamed, -⟩ := (Graph.addUnits_eq_ok_iff _ _ _).1 h
  refine (Graph.addUnits_eq_ok_iff _ _ _).2 ⟨?_, rfl⟩
  intro other hother
  exact named_of_calls hnamed (hsame _ (List.mem_map_of_mem hother))

/-- If files fold into a graph, then so do files with the same calls in any order
and with any repetition, and the edges, the nodes and the statistics are the same.
Copies behind their originals keep even the order of edges and nodes. A further file
with the text of one of the files adds nothing, wherever it is. -/
theorem addUnits_reordered_and_copied {units : List SourceUnit} {graph : Graph}
    (h : Graph.empty.addUnits units = .ok graph) :
    (∀ others : List SourceUnit,
      (∀ calls, calls ∈ others.map callEdges ↔ calls ∈ units.map callEdges) →
      ∃ other, Graph.empty.addUnits others = .ok other ∧
        (∀ edge, edge ∈ other.edges.toList ↔ edge ∈ graph.edges.toList) ∧
        (∀ node, node ∈ other.nodes ↔ node ∈ graph.nodes) ∧
        other.stats = graph.stats) ∧
    (∀ others : List SourceUnit, CopiesAdded units others →
      ∃ other, Graph.empty.addUnits others = .ok other ∧
        other.edges.toList = graph.edges.toList ∧ other.nodes = graph.nodes) ∧
    ∀ unit ∈ units, ∀ path place text copy, Java.parse path text = .ok unit →
      Java.parse place text = .ok copy → graph.addUnit copy = (graph, .ok 0) := by
  obtain ⟨hnamed, rfl⟩ := (Graph.addUnits_eq_ok_iff _ _ _).1 h
  refine ⟨?_, ?_, ?_⟩
  · intro others hsame
    have hedges : ∀ edge,
        edge ∈ (Graph.empty.insertAll
            (others.flatMap callEdges)).edges.toList ↔
          edge ∈ (Graph.empty.insertAll
            (units.flatMap callEdges)).edges.toList := by
      intro edge
      rw [Graph.toList_insertAll_empty, Graph.toList_insertAll_empty,
        List.mem_eraseDups, List.mem_eraseDups, List.flatMap_def, List.flatMap_def]
      simp only [List.mem_flatten, hsame]
    exact ⟨_, addUnits_of_same_calls h fun calls => (hsame calls).1, hedges,
      fun node => (Graph.perm_nodes hedges).mem_iff,
      Graph.stats_eq_of_perm (Graph.perm_edges hedges)⟩
  · intro others hcopies
    have hedges :
        (Graph.empty.insertAll (others.flatMap callEdges)).edges.toList =
          (Graph.empty.insertAll (units.flatMap callEdges)).edges.toList := by
      rw [Graph.toList_insertAll_empty, Graph.toList_insertAll_empty,
        hcopies.eraseDups_callEdges]
    refine ⟨_, addUnits_of_same_calls h fun calls => (hcopies.mem_iff calls).1, hedges, ?_⟩
    rw [Graph.nodes, Graph.nodes, Graph.endpoints, Graph.endpoints, hedges]
  · intro unit hunit path place text copy hparse hcopy
    have hcalls : callEdges copy ∈ units.map callEdges :=
      List.mem_map.2 ⟨unit, hunit, (callEdges_eq_of_parse hparse hcopy).symm⟩
    apply Graph.addUnit_of_subset
    · exact named_of_calls hnamed hcalls
    · intro edge hedge
      rw [Graph.toList_insertAll_empty, List.mem_eraseDups]
      exact callEdges_subset hcalls hedge

/-- A method with a call and, inside an anonymous class, a method with a call of
its own. -/
def nestedCalls : SourceUnit where
  path := "Visitor.java"
  root := ⟨.unit, "Visitor", ⟨1, 9⟩, 0, [⟨.type, "Visitor", ⟨1, 9⟩, 0,
    [⟨.method, "visit", ⟨2, 8⟩, 1,
      [⟨.invocation, "step", ⟨3, 3⟩, 0, []⟩,
        ⟨.method, "call", ⟨5, 7⟩, 0, [⟨.invocation, "Log", ⟨6, 6⟩, 0, []⟩]⟩]⟩]⟩]⟩

/-- A method that calls itself, and a call that another file makes too. -/
def selfCall : SourceUnit where
  path := "Walker.java"
  root := ⟨.unit, "Walker", ⟨1, 5⟩, 0, [⟨.type, "Walker", ⟨1, 5⟩, 0,
    [⟨.method, "visit", ⟨2, 4⟩, 0,
      [⟨.invocation, "visit", ⟨3, 3⟩, 0, []⟩,
        ⟨.invocation, "step", ⟨3, 3⟩, 0, []⟩]⟩]⟩]⟩

/-- A copy of the first file in another place and under another name. -/
def copiedCalls : SourceUnit where
  path := "copy/Guest.java"
  root := { nestedCalls.root with name := "Guest" }

theorem addUnits_reordered_and_copied_nested :
    ∃ graph, Graph.empty.addUnits [nestedCalls, selfCall] = .ok graph ∧
      graph.edges.toList =
        [⟨"visit", "step"⟩, ⟨"visit", "Log"⟩, ⟨"call", "Log"⟩,
          ⟨"visit", "visit"⟩] ∧
      (∃ other,
        Graph.empty.addUnits [selfCall, copiedCalls, selfCall] = .ok other ∧
        (∀ edge, edge ∈ other.edges.toList ↔ edge ∈ graph.edges.toList) ∧
        (∀ node, node ∈ other.nodes ↔ node ∈ graph.nodes) ∧
        other.stats = graph.stats) ∧
      ∃ other,
        Graph.empty.addUnits [nestedCalls, copiedCalls, selfCall, nestedCalls] =
          .ok other ∧
        other.edges.toList = graph.edges.toList ∧ other.nodes = graph.nodes := by
  have hfold : Graph.empty.addUnits [nestedCalls, selfCall] =
      .ok (Graph.empty.insertAll
        ([nestedCalls, selfCall].flatMap callEdges)) := by
    refine (Graph.addUnits_eq_ok_iff _ _ _).2 ⟨?_, rfl⟩
    simp only [List.forall_mem_cons]
    decide +kernel
  have hcopy : callEdges copiedCalls = callEdges nestedCalls := by decide +kernel
  obtain ⟨hreordered, hcopied, -⟩ := addUnits_reordered_and_copied hfold
  refine ⟨_, hfold, by decide +kernel, hreordered _ ?_, hcopied _ ?_⟩
  · intro calls
    simp only [List.map_cons, List.map_nil, List.mem_cons, List.not_mem_nil,
      or_false, hcopy]
    tauto
  · have hlast : CopiesAdded [nestedCalls, selfCall]
        ([nestedCalls, selfCall] ++ nestedCalls :: []) :=
      .copy List.mem_cons_self .none
    show CopiesAdded [nestedCalls, selfCall]
      ([nestedCalls] ++ copiedCalls :: [selfCall, nestedCalls])
    exact .copy (List.mem_singleton.2 hcopy) hlast

end JavaSurvey.CallGraph
