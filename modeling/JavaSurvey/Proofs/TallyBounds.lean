import JavaSurvey.Proofs.TallyOrder
import Mathlib.Algebra.Order.BigOperators.Group.List
import Mathlib.Algebra.Order.Group.Nat

/-!
# How class maps and totals fit together

The totals count every type and every member, while the class maps keep one
figure per name: a type replaces what an earlier type of its name had. So a map
can only fall short of the total that it belongs to.

For the fields this is a fact about maps alone, because the total counts the
fields of types. The methods are counted wherever they stand, also outside
types. Each of them is a direct child of at most one node, so the methods that
stand directly in types are no more than all methods.

## Main results

* `Syntax.sum_memberCount_preorder`: every node but the root is a direct child
  of exactly one node.
* `consistent_accumulateAll`: the maps and the totals after any files.
-/

namespace JavaSurvey.Syntax

/-! ## Direct children -/

mutual

/-- Every node but the root is a direct child of exactly one node. -/
theorem sum_memberCount_preorder (kind : NodeKind) : (root : Node) →
    (root.preorder.map (Node.memberCount kind)).sum =
      (Node.preorderAll root.children).countP fun node => node.kind == kind
  | ⟨rootKind, name, span, parameterCount, children⟩ => by
      have hbelow := sum_memberCount_preorderAll kind children
      rw [Node.preorder, List.map_cons, List.sum_cons, ← hbelow]
      exact Nat.add_comm _ _

/-- The same for several trees, whose roots are nobody's children. -/
theorem sum_memberCount_preorderAll (kind : NodeKind) : (nodes : List Node) →
    ((Node.preorderAll nodes).map (Node.memberCount kind)).sum +
        nodes.countP (fun node => node.kind == kind) =
      (Node.preorderAll nodes).countP fun node => node.kind == kind
  | [] => rfl
  | node :: rest => by
      have hnode := sum_memberCount_preorder kind node
      have hrest := sum_memberCount_preorderAll kind rest
      rw [Node.preorderAll, List.map_append, List.sum_append, List.countP_append,
        List.countP_cons, hnode, Node.preorder_eq, List.countP_cons]
      omega

end

/-- The nodes of one kind that stand directly below nodes of another are no more
than all nodes of the kind. -/
theorem sum_memberCount_ofKind_le (root : Node) (outer kind : NodeKind) :
    ((root.ofKind outer).map (Node.memberCount kind)).sum ≤
      (root.ofKind kind).length := by
  have hsome : ((root.ofKind outer).map (Node.memberCount kind)).sum ≤
      (root.preorder.map (Node.memberCount kind)).sum :=
    (List.filter_sublist.map _).sum_le_sum fun _ _ => Nat.zero_le _
  have hall := sum_memberCount_preorder kind root
  have hlength : (root.ofKind kind).length =
      root.preorder.countP fun node => node.kind == kind :=
    List.countP_eq_length_filter.symm
  rw [hlength, Node.preorder_eq, List.countP_cons]
  omega

theorem sum_memberCount_nodesOfKind_le (units : List SourceUnit)
    (outer kind : NodeKind) :
    ((nodesOfKind units outer).map (Node.memberCount kind)).sum ≤
      (nodesOfKind units kind).length := by
  induction units with
  | nil => exact Nat.le_refl 0
  | cons unit units ih =>
      have hunit := sum_memberCount_ofKind_le unit.root outer kind
      simp only [nodesOfKind, List.flatMap_cons, List.map_append,
        List.sum_append, List.length_append] at ih ⊢
      omega

end JavaSurvey.Syntax

namespace JavaSurvey.Metrics

open Data (OrderedMap)
open Syntax (Node NodeKind SourceUnit nodesOfKind)

/-! ## Class maps -/

/-- The class map of types: one figure per name, that of the last type. -/
def classMap (kind : NodeKind) (types : List Node) : ClassFigures :=
  .ofList (types.map (classEntry kind))

theorem keys_classMap (kind : NodeKind) (types : List Node) :
    (classMap kind types).keys = (types.map (·.name)).eraseDups :=
  (figuresOfLast_ofList types kind).keys

theorem size_classMap (kind : NodeKind) (types : List Node) :
    (classMap kind types).size = (types.map (·.name)).eraseDups.length := by
  rw [← keys_classMap kind, OrderedMap.keys, List.length_map, OrderedMap.size]

/-- The figures of all types, those that are replaced included. -/
theorem sum_classEntry (kind : NodeKind) (types : List Node) :
    ((types.map (classEntry kind)).map Prod.snd).sum =
      (types.map (Node.memberCount kind)).sum := by
  rw [List.map_map]
  rfl

theorem valueSum_classMap_le (kind : NodeKind) (types : List Node) :
    (classMap kind types).valueSum ≤
      (types.map (Node.memberCount kind)).sum := by
  rw [← sum_classEntry]
  exact OrderedMap.valueSum_ofList_le _

/-- Under distinct names no figure is replaced. -/
theorem valueSum_classMap_of_nodup (kind : NodeKind) {types : List Node}
    (h : (types.map (·.name)).Nodup) :
    (classMap kind types).valueSum =
      (types.map (Node.memberCount kind)).sum := by
  rw [OrderedMap.valueSum, classMap, entries_classMap kind h, sum_classEntry]

/-! ## Maps against totals -/

/-- The class maps of a tally against its totals, for the files it was built
from. -/
structure Tally.Consistent (tally : Tally) (units : List SourceUnit) : Prop where
  /-- Both maps list the same names in the same order. -/
  keys : tally.classMethods.keys = tally.classAttributes.keys
  sameSize : tally.classAttributes.size = tally.classMethods.size
  size_le : tally.classMethods.size ≤ tally.totals.classes
  /-- No name is missing from the maps exactly if no two types share one. -/
  size_eq_iff : tally.classMethods.size = tally.totals.classes ↔
    ((nodesOfKind units .type).map (·.name)).Nodup
  methods_le : tally.classMethods.valueSum ≤ tally.totals.methods
  attributes_le : tally.classAttributes.valueSum ≤ tally.totals.attributes
  attributes_eq : ((nodesOfKind units .type).map (·.name)).Nodup →
    tally.classAttributes.valueSum = tally.totals.attributes

/-- After any files the class maps have the same names, no more of them than
there are types, and figures that sum up to no more than the totals. -/
theorem consistent_accumulateAll (units : List SourceUnit) :
    (Tally.accumulateAll units).Consistent units := by
  rw [accumulateAll_eq_ofUnits]
  have hmethods : (Tally.ofUnits units).classMethods =
      classMap .method (nodesOfKind units .type) := rfl
  have hattributes : (Tally.ofUnits units).classAttributes =
      classMap .field (nodesOfKind units .type) := rfl
  have hclasses : (Tally.ofUnits units).totals.classes =
      ((nodesOfKind units .type).map (·.name)).length := by
    rw [List.length_map]
    rfl
  exact
    { keys := by rw [hmethods, hattributes, keys_classMap, keys_classMap]
      sameSize := by rw [hmethods, hattributes, size_classMap, size_classMap]
      size_le := by
        rw [hmethods, size_classMap, hclasses]
        exact Data.length_eraseDups_le _
      size_eq_iff := by
        rw [hmethods, size_classMap, hclasses]
        exact Data.length_eraseDups_eq_iff _
      methods_le :=
        (valueSum_classMap_le .method _).trans
          (Syntax.sum_memberCount_nodesOfKind_le units .type .method)
      attributes_le := valueSum_classMap_le .field _
      attributes_eq := valueSum_classMap_of_nodup .field }

end JavaSurvey.Metrics
