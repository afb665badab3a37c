import JavaSurvey.Proofs.KeptNodes
import Mathlib.Algebra.GroupWithZero.Nat

/-!
# Calls and the methods around them

Call pairs come from two walks, one that looks for methods and one below each
method that looks for calls. Neither knows about places: equal nodes may stand
at several of them, and a call may stand inside several methods. Here nodes are
told apart by their addresses. An occurrence is a node with its address, and an
occurrence encloses another one if its address begins the other's.

What a tree holds at or below an address is the tree that stands there, with the
address put in front (`filter_isPrefix_occurrences`). So the walk below a method
visits exactly what the method encloses, and the method itself.

## Main results

* `Node.mem_occurrences`, `Node.pairwise_occurrences`: the occurrences of a tree
  are what stands at its addresses, and ascend.
* `Node.map_node_callsInside`: the calls below a method are those it encloses.
* `Node.length_enclosedCalls`: pairs counted by call and not by method.
* `callPairs_are_enclosedCalls`: the call pairs of a file.
-/

namespace JavaSurvey.Syntax

/-! ## Occurrences -/

/-- A node together with the address at which it stands. -/
structure Occurrence where
  place : Address
  node : Node

/-- The same occurrence, seen from a tree that has this one at an address. -/
def Occurrence.under (place : Address) (occurrence : Occurrence) : Occurrence :=
  ⟨place ++ occurrence.place, occurrence.node⟩

mutual

/-- Every node of a tree with its address, in pre-order. -/
def Node.occurrences : Node → List Occurrence
  | ⟨kind, name, span, parameterCount, children⟩ =>
    ⟨[], ⟨kind, name, span, parameterCount, children⟩⟩ ::
      Node.occurrencesOfAll 0 children

/-- The occurrences in the children of a node, from the child with a given
number on. -/
def Node.occurrencesOfAll (index : Nat) : List Node → List Occurrence
  | [] => []
  | node :: rest =>
    node.occurrences.map (Occurrence.under [index]) ++
      Node.occurrencesOfAll (index + 1) rest

end

namespace Node

theorem occurrences_eq (node : Node) :
    node.occurrences = ⟨[], node⟩ :: occurrencesOfAll 0 node.children := by
  cases node
  rw [occurrences]

mutual

theorem map_node_occurrences : (root : Node) →
    root.occurrences.map Occurrence.node = root.preorder
  | ⟨kind, name, span, parameterCount, children⟩ => by
      rw [occurrences, List.map_cons, map_node_occurrencesOfAll 0 children, preorder]

theorem map_node_occurrencesOfAll (index : Nat) : (nodes : List Node) →
    (occurrencesOfAll index nodes).map Occurrence.node = preorderAll nodes
  | [] => rfl
  | node :: rest => by
      have hbelow : (node.occurrences.map (Occurrence.under [index])).map Occurrence.node =
          node.preorder := by
        rw [List.map_map, ← map_node_occurrences node]
        rfl
      rw [occurrencesOfAll, List.map_append, hbelow,
        map_node_occurrencesOfAll (index + 1) rest, preorderAll]

end

/-- What occurs in the children of a node occurs in one of them. -/
theorem mem_occurrencesOfAll {index : Nat} {nodes : List Node}
    {occurrence : Occurrence} :
    occurrence ∈ occurrencesOfAll index nodes ↔
      ∃ (i : Nat) (child : Node), nodes[i]? = some child ∧
        ∃ inner ∈ child.occurrences, occurrence = inner.under [index + i] := by
  induction nodes generalizing index with
  | nil => simp [occurrencesOfAll]
  | cons node rest ih =>
      rw [occurrencesOfAll, List.mem_append, ih, List.mem_map]
      constructor
      · rintro (⟨inner, hinner, rfl⟩ | ⟨i, child, hchild, inner, hinner, rfl⟩)
        · exact ⟨0, node, rfl, inner, hinner, rfl⟩
        · refine ⟨i + 1, child, hchild, inner, hinner, ?_⟩
          rw [Nat.add_right_comm, Nat.add_assoc]
      · rintro ⟨i, child, hchild, inner, hinner, rfl⟩
        cases i with
        | zero =>
            cases hchild
            exact Or.inl ⟨inner, hinner, rfl⟩
        | succ i =>
            refine Or.inr ⟨i, child, hchild, inner, hinner, ?_⟩
            rw [Nat.add_right_comm, Nat.add_assoc]

/-- The occurrences of a tree are what stands at its addresses. -/
theorem mem_occurrences {root node : Node} {place : Address} :
    ⟨place, node⟩ ∈ root.occurrences ↔ root.at? place = some node := by
  induction place generalizing root with
  | nil =>
      rw [occurrences_eq, List.mem_cons, mem_occurrencesOfAll]
      constructor
      · rintro (heq | ⟨i, child, _, inner, _, heq⟩)
        · cases heq
          rfl
        · cases heq
      · intro heq
        cases heq
        exact Or.inl rfl
  | cons index place ih =>
      rw [occurrences_eq, List.mem_cons, mem_occurrencesOfAll]
      constructor
      · rintro (heq | ⟨i, child, hchild, inner, hinner, heq⟩)
        · cases heq
        · cases heq
          rw [at?, descend, Nat.zero_add, hchild]
          exact ih.1 hinner
      · intro hat
        obtain ⟨child, hchild, hbelow⟩ := Option.bind_eq_some_iff.1 hat
        refine Or.inr ⟨index, child, hchild, ⟨place, node⟩, ih.2 hbelow, ?_⟩
        rw [Occurrence.under, Nat.zero_add, List.singleton_append]

/-- Everything in the children of a node has an address that is not empty. -/
theorem nil_lt_of_mem_occurrencesOfAll {index : Nat} {nodes : List Node}
    {occurrence : Occurrence} (h : occurrence ∈ occurrencesOfAll index nodes) :
    [] < occurrence.place := by
  obtain ⟨i, child, _, inner, _, rfl⟩ := mem_occurrencesOfAll.1 h
  exact List.nil_lt_cons _ _

mutual

/-- Addresses ascend in pre-order. -/
theorem pairwise_occurrences : (root : Node) →
    root.occurrences.Pairwise fun first second => first.place < second.place
  | ⟨kind, name, span, parameterCount, children⟩ => by
      rw [occurrences]
      refine List.pairwise_cons.2 ⟨?_, pairwise_occurrencesOfAll 0 children⟩
      intro occurrence hoccurrence
      exact nil_lt_of_mem_occurrencesOfAll hoccurrence

theorem pairwise_occurrencesOfAll (index : Nat) : (nodes : List Node) →
    (occurrencesOfAll index nodes).Pairwise fun first second =>
      first.place < second.place
  | [] => List.Pairwise.nil
  | node :: rest => by
      rw [occurrencesOfAll]
      refine List.pairwise_append.2 ⟨?_, pairwise_occurrencesOfAll (index + 1) rest, ?_⟩
      · refine List.pairwise_map.2 ((pairwise_occurrences node).imp ?_)
        intro first second hlt
        exact List.cons_lt_cons_iff.2 (Or.inr ⟨rfl, hlt⟩)
      · -- What stands in a later child has a larger first number.
        intro first hfirst second hsecond
        obtain ⟨inner, _, rfl⟩ := List.mem_map.1 hfirst
        obtain ⟨i, child, _, other, _, rfl⟩ := mem_occurrencesOfAll.1 hsecond
        exact List.cons_lt_cons_iff.2 (Or.inl (by omega))

end

/-! ## What stands below an address -/

/-- What the children of a node hold below an address is what the child with its
first number holds below the rest of it. -/
theorem filter_isPrefix_occurrencesOfAll (index : Nat) (place : Address) {i : Nat}
    {nodes : List Node} {child : Node} (h : nodes[i]? = some child) :
    (occurrencesOfAll index nodes).filter
        (fun occurrence => decide ((index + i) :: place <+: occurrence.place)) =
      (child.occurrences.filter
        fun occurrence => decide (place <+: occurrence.place)).map
          (Occurrence.under [index + i]) := by
  induction nodes generalizing index i with
  | nil => cases h
  | cons node rest ih =>
      rw [occurrencesOfAll, List.filter_append, List.filter_map]
      cases i with
      | zero =>
          cases h
          have hlater : (occurrencesOfAll (index + 1) rest).filter
              (fun occurrence => decide ((index + 0) :: place <+: occurrence.place)) =
                [] := by
            rw [List.filter_eq_nil_iff]
            intro occurrence hoccurrence
            obtain ⟨j, other, _, inner, _, rfl⟩ := mem_occurrencesOfAll.1 hoccurrence
            simp only [Occurrence.under, List.singleton_append, List.cons_prefix_cons,
              decide_eq_true_eq, not_and]
            omega
          rw [hlater, List.append_nil, Nat.add_zero]
          congr 2
          funext occurrence
          simp [Occurrence.under, List.cons_prefix_cons]
      | succ i =>
          have hfirst : node.occurrences.filter
              ((fun occurrence => decide ((index + (i + 1)) :: place <+: occurrence.place)) ∘
                Occurrence.under [index]) = [] := by
            rw [List.filter_eq_nil_iff]
            intro occurrence _
            simp only [Function.comp, Occurrence.under, List.singleton_append,
              List.cons_prefix_cons, decide_eq_true_eq, not_and]
            omega
          have hnumber : index + (i + 1) = index + 1 + i := by omega
          rw [hfirst, List.map_nil, List.nil_append, hnumber]
          exact ih (index + 1) h

/-- What a tree holds at or below an address is what the tree at that address
holds. -/
theorem filter_isPrefix_occurrences {root node : Node} {place : Address}
    (h : root.at? place = some node) :
    root.occurrences.filter (fun occurrence => decide (place <+: occurrence.place)) =
      node.occurrences.map (Occurrence.under place) := by
  induction place generalizing root with
  | nil =>
      cases h
      have hsame : Occurrence.under [] = id := rfl
      simp [hsame]
  | cons index place ih =>
      obtain ⟨child, hchild, hbelow⟩ := Option.bind_eq_some_iff.1 h
      have hchildren := filter_isPrefix_occurrencesOfAll 0 place hchild
      rw [Nat.zero_add] at hchildren
      rw [occurrences_eq root, List.filter_cons_of_neg (by simp), hchildren, ih hbelow,
        List.map_map]
      rfl

/-! ## Methods and the calls they enclose -/

end Node

/-- Whether an occurrence stands properly below another one. -/
def Occurrence.encloses (outer inner : Occurrence) : Bool :=
  decide (outer.place <+: inner.place) && outer.place != inner.place

/-- A pair comes before another one by its method, and among pairs of one method
by its call. -/
def PairPrecedes (first second : Occurrence × Occurrence) : Prop :=
  first.1.place < second.1.place ∨
    first.1.place = second.1.place ∧ first.2.place < second.2.place

/-- Pairs of related elements can be counted from either side. -/
theorem sum_length_filter_comm {α β : Type} (related : α → β → Bool) (firsts : List α)
    (seconds : List β) :
    (firsts.map fun a => (seconds.filter (related a)).length).sum =
      (seconds.map fun b => (firsts.filter fun a => related a b).length).sum := by
  induction firsts with
  | nil => simp
  | cons a firsts ih =>
      -- One more element on the left adds one where it is related.
      have hmore : (seconds.map fun b =>
          ((a :: firsts).filter fun a => related a b).length).sum =
          (seconds.filter (related a)).length +
            (seconds.map fun b => (firsts.filter fun a => related a b).length).sum := by
        clear ih
        induction seconds with
        | nil => rfl
        | cons b seconds ihseconds =>
            simp only [List.map_cons, List.sum_cons, ihseconds]
            cases hrelated : related a b with
            | true =>
                simp only [List.filter_cons, hrelated, if_true, List.length_cons]
                omega
            | false =>
                simp only [List.filter_cons, hrelated, Bool.false_eq_true, if_false]
                omega
      rw [List.map_cons, List.sum_cons, ih, hmore]

namespace Node

/-- The occurrences of one kind, in pre-order. -/
def occurrencesOf (root : Node) (kind : NodeKind) : List Occurrence :=
  root.occurrences.filter fun occurrence => occurrence.node.kind == kind

/-- The calls that a method encloses, in pre-order. -/
def callsInside (root : Node) (method : Occurrence) : List Occurrence :=
  (root.occurrencesOf .invocation).filter method.encloses

/-- The methods that enclose a call, in pre-order. -/
def methodsAround (root : Node) (call : Occurrence) : List Occurrence :=
  (root.occurrencesOf .method).filter fun method => method.encloses call

/-- Every method with every call that it encloses. -/
def enclosedCalls (root : Node) : List (Occurrence × Occurrence) :=
  (root.occurrencesOf .method).flatMap fun method =>
    (root.callsInside method).map fun call => (method, call)

theorem mem_occurrencesOf {root : Node} {kind : NodeKind} {occurrence : Occurrence} :
    occurrence ∈ root.occurrencesOf kind ↔
      root.at? occurrence.place = some occurrence.node ∧ occurrence.node.kind = kind := by
  rw [occurrencesOf, List.mem_filter, mem_occurrences, beq_iff_eq]

theorem map_node_occurrencesOf (root : Node) (kind : NodeKind) :
    (root.occurrencesOf kind).map Occurrence.node = root.ofKind kind := by
  rw [ofKind, ← map_node_occurrences, List.filter_map, occurrencesOf]
  rfl

/-- The calls at or below a method are those that it encloses: it is no call
itself. -/
theorem map_node_callsInside {root : Node} {method : Occurrence}
    (h : method ∈ root.occurrencesOf .method) :
    (root.callsInside method).map Occurrence.node = method.node.ofKind .invocation := by
  obtain ⟨hat, hkind⟩ := mem_occurrencesOf.1 h
  have hcalls : root.callsInside method =
      (root.occurrences.filter fun call => decide (method.place <+: call.place)).filter
        fun call => call.node.kind == .invocation := by
    rw [callsInside, occurrencesOf, List.filter_filter, List.filter_filter]
    refine List.filter_congr fun call hcall => ?_
    by_cases hsame : method.place = call.place
    · have hnode : call.node = method.node := by
        have hcallAt := mem_occurrences.1 hcall
        rw [← hsame, hat] at hcallAt
        exact (Option.some.inj hcallAt).symm
      rw [hnode, hkind, Occurrence.encloses, hsame]
      simp
    · rw [Occurrence.encloses, bne_iff_ne.2 hsame, Bool.and_true, Bool.and_comm]
  rw [hcalls, filter_isPrefix_occurrences hat, ofKind, ← map_node_occurrences,
    List.filter_map, List.filter_map, List.map_map]
  rfl

/-! ## Pairs -/

theorem mem_enclosedCalls {root : Node} {pair : Occurrence × Occurrence} :
    pair ∈ root.enclosedCalls ↔
      pair.1 ∈ root.occurrencesOf .method ∧ pair.2 ∈ root.occurrencesOf .invocation ∧
        pair.1.encloses pair.2 = true := by
  rw [enclosedCalls, List.mem_flatMap]
  constructor
  · rintro ⟨method, hmethod, hpair⟩
    obtain ⟨call, hcall, rfl⟩ := List.mem_map.1 hpair
    exact ⟨hmethod, List.mem_filter.1 hcall⟩
  · rintro ⟨hmethod, hcall⟩
    exact ⟨pair.1, hmethod, List.mem_map.2 ⟨pair.2, List.mem_filter.2 hcall, rfl⟩⟩

theorem pairwise_enclosedCalls (root : Node) :
    root.enclosedCalls.Pairwise PairPrecedes := by
  have hascending := pairwise_occurrences root
  refine List.pairwise_flatMap.2 ⟨?_, ?_⟩
  · intro method _
    refine List.pairwise_map.2 (((hascending.filter _).filter _).imp ?_)
    intro first second hlt
    exact Or.inr ⟨rfl, hlt⟩
  · refine (hascending.filter _).imp ?_
    intro first second hlt pair hpair other hother
    obtain ⟨call, _, rfl⟩ := List.mem_map.1 hpair
    obtain ⟨call', _, rfl⟩ := List.mem_map.1 hother
    exact Or.inl hlt

/-- There are as many pairs as there are methods around all calls together. -/
theorem length_enclosedCalls (root : Node) :
    root.enclosedCalls.length =
      ((root.occurrencesOf .invocation).map fun call =>
        (root.methodsAround call).length).sum := by
  rw [enclosedCalls, List.length_flatMap]
  simp only [List.length_map]
  exact sum_length_filter_comm Occurrence.encloses _ _

end Node

open Node

/-- The nodes of the call pairs of a file. -/
theorem map_node_callPairs (unit : SourceUnit) :
    (unit.callPairs.map fun pair => (pair.1.node, pair.2.node)) =
      unit.root.enclosedCalls.map fun pair => (pair.1.node, pair.2.node) := by
  have hmethods : unit.declarations.map View.node =
      (unit.root.occurrencesOf .method).map Occurrence.node := by
    rw [SourceUnit.declarations, map_node_selectKind, map_node_occurrencesOf]
  calc
    (unit.callPairs.map fun pair => (pair.1.node, pair.2.node)) =
        (unit.declarations.map View.node).flatMap fun method =>
          (method.ofKind .invocation).map fun call => (method, call) := by
      rw [SourceUnit.callPairs, List.map_flatMap, List.flatMap_map]
      refine List.flatMap_congr fun declaration _ => ?_
      rw [← map_node_selectKind, List.map_map, List.map_map]
      rfl
    _ = unit.root.enclosedCalls.map fun pair => (pair.1.node, pair.2.node) := by
      rw [hmethods, enclosedCalls, List.map_flatMap, List.flatMap_map]
      refine List.flatMap_congr fun method hmethod => ?_
      rw [← map_node_callsInside hmethod, List.map_map, List.map_map]
      rfl

/-- The call pairs of a file are the pairs of a method and a call that it
encloses, each pair of occurrences once, by the method and then by the call in
pre-order. There are as many of them as there are methods around all calls
together. -/
theorem callPairs_are_enclosedCalls (unit : SourceUnit) :
    (unit.root.occurrences.map Occurrence.node = unit.root.preorder ∧
      (unit.root.occurrences.Pairwise fun first second => first.place < second.place) ∧
      ∀ place node, ⟨place, node⟩ ∈ unit.root.occurrences ↔
        unit.root.at? place = some node) ∧
    ∃ pairs : List (Occurrence × Occurrence),
      (unit.callPairs.map fun pair => (pair.1.node, pair.2.node)) =
        (pairs.map fun pair => (pair.1.node, pair.2.node)) ∧
      (∀ method call, (method, call) ∈ pairs ↔
        method ∈ unit.root.occurrences ∧ method.node.kind = .method ∧
          call ∈ unit.root.occurrences ∧ call.node.kind = .invocation ∧
          method.place <+: call.place ∧ method.place ≠ call.place) ∧
      pairs.Pairwise PairPrecedes ∧
      unit.callPairs.length =
        ((unit.root.occurrencesOf .invocation).map fun call =>
          (unit.root.methodsAround call).length).sum := by
  have hpairs := map_node_callPairs unit
  refine ⟨⟨map_node_occurrences _, pairwise_occurrences _, fun _ _ => mem_occurrences⟩,
    unit.root.enclosedCalls, hpairs, ?_, pairwise_enclosedCalls _, ?_⟩
  · intro method call
    rw [mem_enclosedCalls, occurrencesOf, occurrencesOf, List.mem_filter, List.mem_filter,
      Occurrence.encloses]
    simp only [beq_iff_eq, bne_iff_ne, decide_eq_true_eq, Bool.and_eq_true, and_assoc]
  · have hlength := congrArg List.length hpairs
    rw [List.length_map, List.length_map] at hlength
    rw [hlength, length_enclosedCalls]

end JavaSurvey.Syntax
