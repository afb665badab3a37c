import JavaSurvey.Syntax.Walk

/-!
# Selections are filtered pre-orders

The walk keeps its pending nodes on a stack. What it has still to list is at
every moment the pre-order of that stack, so it lists the pre-order of the tree,
and every selection is a filter of it. Turning the selected nodes into views
loses none of them, because a view is refused only to nodes of another kind.

Facts about a selection are therefore stated about `Node.ofKind`, the nodes of
one kind in pre-order, and never about the stack.

## Main results

* `walk_eq_filter`: the walk lists the pre-order of its stack, filtered.
* `map_node_selectKind`: the nodes under the views of a selection.
-/

namespace JavaSurvey.Syntax

theorem Node.preorder_eq (node : Node) :
    node.preorder = node :: Node.preorderAll node.children := by
  cases node
  rw [Node.preorder]

theorem Node.preorderAll_append (first second : List Node) :
    Node.preorderAll (first ++ second) =
      Node.preorderAll first ++ Node.preorderAll second := by
  induction first with
  | nil => rfl
  | cons node rest ih =>
      rw [List.cons_append, Node.preorderAll, Node.preorderAll, ih,
        List.append_assoc]

/-- The walk lists what is on its stack and below, in pre-order. -/
theorem walk_eq_filter (keep : Node → Bool) (pending : List Node) :
    walk keep pending = (Node.preorderAll pending).filter keep := by
  fun_induction walk keep pending with
  | case1 => rfl
  | case2 node pending hkeep ih =>
      rw [ih, Node.preorderAll_append, Node.preorderAll, Node.preorder_eq,
        List.cons_append, List.filter_cons_of_pos hkeep]
  | case3 node pending hkeep ih =>
      rw [ih, Node.preorderAll_append, Node.preorderAll, Node.preorder_eq,
        List.cons_append, List.filter_cons_of_neg hkeep]

theorem select_eq_filter (root : Node) (keep : Node → Bool) :
    select root keep = root.preorder.filter keep := by
  rw [select, walk_eq_filter, Node.preorderAll, Node.preorderAll,
    List.append_nil]

/-- The nodes of one kind at or below a node, in pre-order. -/
def Node.ofKind (root : Node) (kind : NodeKind) : List Node :=
  root.preorder.filter fun node => node.kind == kind

/-- Views are refused to nodes of another kind and to no others. -/
theorem View.map_node_ofNodes (kind : NodeKind) (nodes : List Node) :
    (View.ofNodes kind nodes).map View.node =
      nodes.filter fun node => node.kind == kind := by
  rw [View.ofNodes, List.map_filterMap, ← List.filterMap_eq_filter]
  congr 1
  funext node
  by_cases h : node.kind = kind
  · simp [View.ofNode?, Option.guard, h]
  · simp [View.ofNode?, Option.guard, h]

theorem View.length_ofNodes (kind : NodeKind) (nodes : List Node) :
    (View.ofNodes kind nodes).length =
      nodes.countP fun node => node.kind == kind := by
  rw [← List.length_map (f := View.node), View.map_node_ofNodes,
    List.countP_eq_length_filter]

/-- The nodes under the views of a selection by kind. -/
theorem map_node_selectKind (root : Node) (kind : NodeKind) :
    (selectKind root kind).map View.node = root.ofKind kind := by
  rw [selectKind, View.map_node_ofNodes, select_eq_filter, List.filter_filter,
    Node.ofKind]
  simp only [Bool.and_self]

end JavaSurvey.Syntax
