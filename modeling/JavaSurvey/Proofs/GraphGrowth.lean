import JavaSurvey.CallGraph.Graph
import JavaSurvey.Proofs.Collections
import Mathlib.Data.List.TakeWhile

/-!
# How call graphs grow

A graph is extended by single edges and by whole source files. Either can be
refused because of an empty name, and a file can be refused after some of its
edges went in. All of this is one operation: an extension asks for a list of
edges, the ones before the first edge without a name are accepted, and accepted
edges are inserted in order. So a graph reached by any extensions, refused ones
included, lists the first occurrences of everything that was accepted on the
way, and its invariants are facts about that list.

## Main results

* `Graph.addUnit_of_named`, `Graph.addUnit_of_unnamed`: what adding a file does,
  with the number it reports and the error it raises.
* `Extension.apply_eq_insertAll`: what one extension does, whether or not it
  fails.
* `edges_run`: the edges of every graph that extensions can reach.
* `growth_run`: the invariants of these graphs, and the exact effect of a
  further file.
-/

namespace JavaSurvey.CallGraph

open Data (OrderedSet)
open Syntax (SourceUnit)

/-! ## Edges with and without names -/

/-- Both ends of the edge have a name. -/
def Edge.Named (edge : Edge) : Prop :=
  edge.caller ≠ "" ∧ edge.callee ≠ ""

instance (edge : Edge) : Decidable edge.Named :=
  inferInstanceAs (Decidable (_ ∧ _))

/-- The two ends of an edge. -/
def Edge.ends (edge : Edge) : String × String :=
  (edge.caller, edge.callee)

/-- The edges that a source file asks for, in the order of its call pairs. -/
def callEdges (unit : SourceUnit) : List Edge :=
  unit.callPairs.map fun (method, call) => ⟨method.name, call.name⟩

theorem map_ends_callEdges (unit : SourceUnit) :
    (callEdges unit).map Edge.ends =
      unit.callPairs.map fun (method, call) => (method.name, call.name) := by
  rw [callEdges, List.map_map]
  rfl

/-- Edges either have names throughout or have a first one without a name. -/
theorem named_or_first_unnamed (edges : List Edge) :
    (∀ edge ∈ edges, edge.Named) ∨
      ∃ before bad after, edges = before ++ bad :: after ∧
        (∀ edge ∈ before, edge.Named) ∧ ¬ bad.Named := by
  induction edges with
  | nil => exact Or.inl (by simp)
  | cons edge rest ih =>
      by_cases hedge : edge.Named
      · rcases ih with hrest | ⟨before, bad, after, rfl, hbefore, hbad⟩
        · exact Or.inl (List.forall_mem_cons.2 ⟨hedge, hrest⟩)
        · exact Or.inr ⟨edge :: before, bad, after, rfl,
            List.forall_mem_cons.2 ⟨hedge, hbefore⟩, hbad⟩
      · exact Or.inr ⟨[], edge, rest, rfl, by simp, hedge⟩

theorem not_forall_named {before after : List Edge} {bad : Edge}
    (hbad : ¬ bad.Named) : ¬ ∀ edge ∈ before ++ bad :: after, edge.Named := by
  intro hnamed
  exact hbad (hnamed bad (List.mem_append_right before List.mem_cons_self))

namespace Graph

/-! ## Inserting edges -/

/-- The graph with more edges, inserted in order. -/
def insertAll (graph : Graph) (edges : List Edge) : Graph :=
  ⟨edges.foldl OrderedSet.insert graph.edges⟩

/-- The first occurrences, in order, of edges that the graph does not have. -/
def fresh (graph : Graph) (edges : List Edge) : List Edge :=
  (edges.removeAll graph.edges.toList).eraseDups

theorem toList_insertAll (graph : Graph) (edges : List Edge) :
    (graph.insertAll edges).edges.toList =
      (graph.edges.toList ++ edges).eraseDups :=
  OrderedSet.toList_insertAll graph.edges edges

/-- Insertion puts the fresh edges behind the ones that were there. -/
theorem toList_insertAll_eq_append_fresh (graph : Graph) (edges : List Edge) :
    (graph.insertAll edges).edges.toList =
      graph.edges.toList ++ graph.fresh edges := by
  rw [toList_insertAll, List.eraseDups_append,
    Data.eraseDups_of_nodup graph.edges.nodup, fresh]

theorem edgeCount_insertAll (graph : Graph) (edges : List Edge) :
    (graph.insertAll edges).edgeCount =
      graph.edgeCount + (graph.fresh edges).length := by
  rw [edgeCount, toList_insertAll_eq_append_fresh, List.length_append,
    edgeCount]

theorem insertAll_append (graph : Graph) (first second : List Edge) :
    graph.insertAll (first ++ second) =
      (graph.insertAll first).insertAll second := by
  rw [insertAll, List.foldl_append]
  rfl

/-! ## Adding edges -/

theorem addEdge_of_named (graph : Graph) {edge : Edge} (h : edge.Named) :
    graph.addEdge edge.caller edge.callee =
      .ok (graph.insertAll [edge], !graph.contains edge.caller edge.callee) := by
  rw [addEdge, if_neg]
  · rfl
  · simpa [Edge.Named, not_or] using h

theorem addEdge_of_unnamed (graph : Graph) {edge : Edge} (h : ¬ edge.Named) :
    graph.addEdge edge.caller edge.callee =
      .error ⟨edge.caller, edge.callee⟩ := by
  rw [addEdge, if_pos]
  rw [Edge.Named, not_and_or, not_not, not_not] at h
  simpa using h

/-- The answer of `addEdge` tells whether the number of edges grew. -/
theorem edgeCount_insertAll_singleton (graph : Graph) (edge : Edge) :
    (graph.insertAll [edge]).edgeCount =
      if !graph.contains edge.caller edge.callee then graph.edgeCount + 1
      else graph.edgeCount := by
  rw [edgeCount, toList_insertAll, Data.eraseDups_concat,
    Data.eraseDups_of_nodup graph.edges.nodup]
  by_cases h : edge ∈ graph.edges.toList
  · simp [contains, OrderedSet.contains, h, edgeCount]
  · simp [contains, OrderedSet.contains, h, edgeCount]

/-- Edges with names are all inserted, and the counter moves with the number of
edges. -/
theorem addEdges_named_append (graph : Graph) (added : Nat) (edges : List Edge)
    (rest : List (String × String)) (h : ∀ edge ∈ edges, edge.Named) :
    graph.addEdges added (edges.map Edge.ends ++ rest) =
      (graph.insertAll edges).addEdges (added + (graph.fresh edges).length)
        rest := by
  induction edges generalizing graph added with
  | nil => rfl
  | cons edge edges ih =>
      obtain ⟨hedge, hedges⟩ := List.forall_mem_cons.1 h
      have hinsert : (graph.insertAll [edge]).insertAll edges =
          graph.insertAll (edge :: edges) :=
        (insertAll_append graph [edge] edges).symm
      -- Both counts of the final graph, through the first edge and at once.
      have hstep := edgeCount_insertAll (graph.insertAll [edge]) edges
      have hwhole := edgeCount_insertAll graph (edge :: edges)
      have hfirst := edgeCount_insertAll_singleton graph edge
      rw [hinsert] at hstep
      rw [List.map_cons, List.cons_append, addEdges, Edge.ends,
        addEdge_of_named graph hedge]
      simp only
      rw [ih (graph.insertAll [edge]) _ hedges, hinsert]
      congr 1
      cases hnew : !graph.contains edge.caller edge.callee with
      | true =>
          rw [hnew, if_pos rfl] at hfirst
          rw [if_pos rfl]
          omega
      | false =>
          rw [hnew, if_neg Bool.false_ne_true] at hfirst
          rw [if_neg Bool.false_ne_true]
          omega

/-! ## Adding source files -/

/-- A file whose calls all have names is added whole. -/
theorem addUnit_of_named (graph : Graph) {unit : SourceUnit}
    (h : ∀ edge ∈ callEdges unit, edge.Named) :
    graph.addUnit unit =
      (graph.insertAll (callEdges unit),
        .ok (graph.fresh (callEdges unit)).length) := by
  have hadd := addEdges_named_append graph 0 (callEdges unit) [] h
  rw [List.append_nil, map_ends_callEdges, Nat.zero_add] at hadd
  rw [addUnit, hadd, addEdges]

/-- A file is added up to its first call without a name. -/
theorem addUnit_of_unnamed (graph : Graph) {unit : SourceUnit}
    {before after : List Edge} {bad : Edge}
    (hunit : callEdges unit = before ++ bad :: after)
    (hbefore : ∀ edge ∈ before, edge.Named) (hbad : ¬ bad.Named) :
    graph.addUnit unit =
      (graph.insertAll before, .error ⟨bad.caller, bad.callee⟩) := by
  have hadd := addEdges_named_append graph 0 before
    ((bad :: after).map Edge.ends) hbefore
  rw [← List.map_append, ← hunit, map_ends_callEdges] at hadd
  rw [addUnit, hadd, List.map_cons, addEdges, Edge.ends,
    addEdge_of_unnamed _ hbad]

end Graph

/-! ## Runs -/

/-- A way to extend a graph. -/
inductive Extension where
  | edge (caller callee : String)
  | file (unit : SourceUnit)

namespace Extension

/-- The graph after an extension, whether or not the extension fails. -/
def apply (graph : Graph) : Extension → Graph
  | .edge caller callee =>
    match graph.addEdge caller callee with
    | .ok (next, _) => next
    | .error _ => graph
  | .file unit => (graph.addUnit unit).1

/-- The edges that an extension asks for. -/
def edges : Extension → List Edge
  | .edge caller callee => [⟨caller, callee⟩]
  | .file unit => callEdges unit

/-- The edges that an extension gets: those before the first without a name. -/
def accepted (extension : Extension) : List Edge :=
  extension.edges.takeWhile fun edge => edge.Named

theorem accepted_of_named {extension : Extension}
    (h : ∀ edge ∈ extension.edges, edge.Named) :
    extension.accepted = extension.edges := by
  rw [accepted, List.takeWhile_eq_self_iff]
  intro edge hedge
  exact decide_eq_true (h edge hedge)

theorem accepted_of_unnamed {extension : Extension} {before after : List Edge}
    {bad : Edge} (hedges : extension.edges = before ++ bad :: after)
    (hbefore : ∀ edge ∈ before, edge.Named) (hbad : ¬ bad.Named) :
    extension.accepted = before := by
  have hdecide : ∀ edge ∈ before, decide edge.Named = true := by
    intro edge hedge
    exact decide_eq_true (hbefore edge hedge)
  rw [accepted, hedges, List.takeWhile_append_of_pos hdecide,
    List.takeWhile_cons_of_neg (by simpa using hbad), List.append_nil]

theorem named_of_mem_accepted {extension : Extension} {edge : Edge}
    (h : edge ∈ extension.accepted) : edge.Named := by
  rw [accepted] at h
  have hdecide := List.mem_takeWhile_imp h
  exact of_decide_eq_true hdecide

/-- What an extension does: it inserts the edges that it gets. -/
theorem apply_eq_insertAll (graph : Graph) (extension : Extension) :
    extension.apply graph = graph.insertAll extension.accepted := by
  rcases named_or_first_unnamed extension.edges with
    hnamed | ⟨before, bad, after, hedges, hbefore, hbad⟩
  · rw [accepted_of_named hnamed]
    cases extension with
    | edge caller callee =>
        have hedge : Edge.Named ⟨caller, callee⟩ :=
          hnamed _ (List.mem_singleton.2 rfl)
        rw [apply, Graph.addEdge_of_named graph hedge]
        rfl
    | file unit =>
        rw [apply, Graph.addUnit_of_named graph hnamed]
        rfl
  · rw [accepted_of_unnamed hedges hbefore hbad]
    cases extension with
    | edge caller callee =>
        obtain ⟨rfl, rfl, rfl⟩ :
            before = [] ∧ bad = ⟨caller, callee⟩ ∧ after = [] := by
          simpa [edges, List.singleton_eq_append_iff] using hedges
        rw [apply, Graph.addEdge_of_unnamed graph hbad]
        rfl
    | file unit =>
        rw [apply, Graph.addUnit_of_unnamed graph hedges hbefore hbad]

end Extension

/-- The graph reached from the empty one by extensions, one after the other. -/
def run (extensions : List Extension) : Graph :=
  extensions.foldl Extension.apply .empty

theorem run_concat (extensions : List Extension) (extension : Extension) :
    run (extensions ++ [extension]) = extension.apply (run extensions) := by
  rw [run, List.foldl_append]
  rfl

/-- A run inserts what its extensions get, one after the other. -/
theorem run_eq_insertAll (extensions : List Extension) :
    run extensions =
      Graph.empty.insertAll (extensions.flatMap Extension.accepted) := by
  induction extensions using List.reverseRecOn with
  | nil => rfl
  | append_singleton extensions extension ih =>
      rw [run_concat, Extension.apply_eq_insertAll, ih, ← Graph.insertAll_append,
        List.flatMap_append, List.flatMap_singleton]

/-- The edges of every graph that can be reached. -/
theorem edges_run (extensions : List Extension) :
    (run extensions).edges.toList =
      (extensions.flatMap Extension.accepted).eraseDups := by
  rw [run_eq_insertAll, Graph.toList_insertAll]
  rfl

theorem named_of_mem_run {extensions : List Extension} {edge : Edge}
    (h : edge ∈ (run extensions).edges.toList) : edge.Named := by
  rw [edges_run, List.mem_eraseDups, List.mem_flatMap] at h
  obtain ⟨extension, _, hedge⟩ := h
  exact Extension.named_of_mem_accepted hedge

/-! ## The invariants -/

/-- What adding a file does to a graph, and what it answers. -/
structure AddsUnit (graph : Graph) (unit : SourceUnit) : Prop where
  /-- It succeeds exactly if every call has names at both ends. -/
  succeeds_iff : (∃ added, (graph.addUnit unit).2 = .ok added) ↔
    ∀ edge ∈ callEdges unit, edge.Named
  /-- On success the fresh edges of the file come behind the old ones, and their
  number is the answer. -/
  on_success : ∀ added, (graph.addUnit unit).2 = .ok added →
    (graph.addUnit unit).1.edges.toList =
        graph.edges.toList ++ graph.fresh (callEdges unit) ∧
      added = (graph.fresh (callEdges unit)).length
  /-- On failure the fresh edges before the first edge without a name have gone
  in, and nothing else; the error tells that edge. -/
  on_failure : ∀ error, (graph.addUnit unit).2 = .error error →
    ∃ before bad after, callEdges unit = before ++ bad :: after ∧
      (∀ edge ∈ before, edge.Named) ∧ ¬ bad.Named ∧
      error = ⟨bad.caller, bad.callee⟩ ∧
      (graph.addUnit unit).1.edges.toList =
        graph.edges.toList ++ graph.fresh before

theorem addsUnit (graph : Graph) (unit : SourceUnit) : AddsUnit graph unit := by
  rcases named_or_first_unnamed (callEdges unit) with
    hnamed | ⟨before, bad, after, hunit, hbefore, hbad⟩
  · have hadd := Graph.addUnit_of_named graph hnamed
    refine
      { succeeds_iff := ?_
        on_success := ?_
        on_failure := ?_ }
    · rw [hadd]
      exact ⟨fun _ => hnamed, fun _ => ⟨_, rfl⟩⟩
    · intro added hok
      rw [hadd] at hok ⊢
      exact ⟨Graph.toList_insertAll_eq_append_fresh graph _,
        (Except.ok.inj hok).symm⟩
    · intro error herror
      rw [hadd] at herror
      cases herror
  · have hadd := Graph.addUnit_of_unnamed graph hunit hbefore hbad
    refine
      { succeeds_iff := ?_
        on_success := ?_
        on_failure := ?_ }
    · constructor
      · rintro ⟨added, hok⟩
        rw [hadd] at hok
        cases hok
      · intro hnamed
        rw [hunit] at hnamed
        exact absurd hnamed (not_forall_named hbad)
    · intro added hok
      rw [hadd] at hok
      cases hok
    · intro error herror
      rw [hadd] at herror ⊢
      exact ⟨before, bad, after, hunit, hbefore, hbad,
        (Except.error.inj herror).symm,
        Graph.toList_insertAll_eq_append_fresh graph before⟩

/-- Graphs grow only at their end, and only by edges with names that they do not
have. This holds of every graph that extensions can reach, failed extensions
included. -/
theorem growth_run (extensions : List Extension) :
    (run extensions).edges.toList.Nodup ∧
      (∀ edge ∈ (run extensions).edges.toList,
        edge.caller ≠ "" ∧ edge.callee ≠ "") ∧
      (∀ extension, (run extensions).edges.toList <+:
        (run (extensions ++ [extension])).edges.toList) ∧
      (∀ unit, AddsUnit (run extensions) unit ∧
        run (extensions ++ [.file unit]) = ((run extensions).addUnit unit).1) ∧
      ∀ caller callee, caller = "" ∨ callee = "" →
        (run extensions).addEdge caller callee = .error ⟨caller, callee⟩ ∧
          run (extensions ++ [.edge caller callee]) = run extensions := by
  refine ⟨(run extensions).edges.nodup, ?_, ?_, ?_, ?_⟩
  · intro edge hedge
    exact named_of_mem_run hedge
  · intro extension
    rw [run_concat, Extension.apply_eq_insertAll,
      Graph.toList_insertAll_eq_append_fresh]
    exact List.prefix_append _ _
  · intro unit
    exact ⟨addsUnit (run extensions) unit, run_concat extensions (.file unit)⟩
  · intro caller callee hempty
    have hunnamed : ¬ Edge.Named ⟨caller, callee⟩ := by
      rw [Edge.Named, not_and_or, not_not, not_not]
      exact hempty
    have herror := Graph.addEdge_of_unnamed (run extensions) hunnamed
    refine ⟨herror, ?_⟩
    rw [run_concat, Extension.apply]
    simp only [herror]

end JavaSurvey.CallGraph
