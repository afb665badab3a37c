import JavaSurvey.Java.Lowering
import JavaSurvey.Proofs.Addresses
import JavaSurvey.Proofs.Preorder

/-!
# Which nodes lowering keeps

Lowering asks of every node below the root what it becomes, and forgets it if
the answer is nothing. Here the kept nodes are described without lowering: as a
list, by what is kept of all nodes in pre-order, and each with its place, by the
address in the concrete tree. Between a place and its nearest kept ancestor
nothing is kept, so what stands there hangs below that ancestor.

## Main results

* `Tree.preorderAll_lowerAll_eq`, `Tree.preorderAll_lowerAll`: the nodes of a
  lowered forest in pre-order, each whole and each alone.
* `Tree.keptAt?_concat`: what is kept at a child of a node.
* `Tree.exists_nearestKept`: every place has a nearest kept ancestor.
-/

namespace JavaSurvey.Syntax

/-- What stands at an address of an analysed tree. -/
def Node.at? (root : Node) (address : Address) : Option Node :=
  descend Node.children root address

/-- A node without what stands below it. -/
def Node.alone (node : Node) : Node :=
  { node with children := [] }

end JavaSurvey.Syntax

namespace JavaSurvey.Java

open Syntax (Node SourceUnit)

namespace Tree

/-! ## Kept nodes in pre-order -/

mutual

/-- Every node at or below a tree in pre-order, with the construct around it. -/
def withParents (parent : Option Construct) :
    Tree → List (Option Construct × Tree)
  | .leaf role token => [(parent, .leaf role token)]
  | .node role construct span children =>
    (parent, .node role construct span children) ::
      withParentsAll (some construct) children

/-- Every node at or below several trees with the same parent. -/
def withParentsAll (parent : Option Construct) :
    List Tree → List (Option Construct × Tree)
  | [] => []
  | tree :: rest => withParents parent tree ++ withParentsAll parent rest

end

/-- What a node becomes has no children yet. -/
theorem alone_of_retain? {parent : Option Construct} {tree : Tree} {kept : Node}
    (h : retain? parent tree = some kept) : kept.alone = kept := by
  unfold retain? at h
  dsimp only at h
  split at h
  case h_13 =>
    split at h <;> cases h
    rfl
  -- The constructs that are kept without a name, and those that never are.
  any_goals cases h <;> rfl
  all_goals
    obtain ⟨name, _, rfl⟩ := Option.map_eq_some_iff.1 h
    rfl

/-- What the nodes below a tree become. -/
def lowered (tree : Tree) : List Node :=
  lowerAll tree.construct? tree.children

/-- What a node becomes if it is kept, with what stands below it. -/
def keptNode? (occurrence : Option Construct × Tree) : Option Node :=
  (retain? occurrence.1 occurrence.2).map fun kept =>
    { kept with children := occurrence.2.lowered }

mutual

theorem preorderAll_lower_eq (parent : Option Construct) : (tree : Tree) →
    Node.preorderAll (lower parent tree) =
      (withParents parent tree).filterMap keptNode?
  | .leaf _ _ => rfl
  | .node role construct span children => by
      have hchildren := preorderAll_lowerAll_eq (some construct) children
      rw [lower, withParents, List.filterMap_cons, keptNode?]
      cases retain? parent (.node role construct span children) with
      | none => exact hchildren
      | some kept =>
          simp only [Option.map_some, Node.preorderAll, List.append_nil,
            Node.preorder_eq, hchildren]
          rfl

/-- The nodes of a lowered forest in pre-order, each with what stands below it. -/
theorem preorderAll_lowerAll_eq (parent : Option Construct) :
    (trees : List Tree) →
    Node.preorderAll (lowerAll parent trees) =
      (withParentsAll parent trees).filterMap keptNode?
  | [] => rfl
  | tree :: rest => by
      rw [lowerAll, Node.preorderAll_append, preorderAll_lower_eq parent tree,
        preorderAll_lowerAll_eq parent rest, withParentsAll, List.filterMap_append]

end

/-- The node itself is what it becomes without what stands below it. -/
theorem map_alone_keptNode? (occurrence : Option Construct × Tree) :
    (keptNode? occurrence).map Node.alone = retain? occurrence.1 occurrence.2 := by
  rw [keptNode?]
  cases hkept : retain? occurrence.1 occurrence.2 with
  | none => rfl
  | some kept => exact congrArg some (alone_of_retain? hkept)

/-- The nodes of a lowered forest in pre-order, each alone, are the kept nodes in
pre-order. -/
theorem preorderAll_lowerAll (parent : Option Construct) (trees : List Tree) :
    (Node.preorderAll (lowerAll parent trees)).map Node.alone =
      (withParentsAll parent trees).filterMap fun occurrence =>
        retain? occurrence.1 occurrence.2 := by
  rw [preorderAll_lowerAll_eq, List.map_filterMap]
  exact List.filterMap_congr fun occurrence _ => map_alone_keptNode? occurrence

/-! ## Kept places -/

/-- What stands at an address of a concrete tree. -/
def at? (root : Tree) (place : Address) : Option Tree :=
  descend Tree.children root place

/-- What the node at a place becomes, if it is kept. The root is not asked: it
becomes the root of the analysed tree. -/
def keptAt? (root : Tree) (place : Address) : Option Node :=
  if place = [] then none
  else
    (root.at? place).bind fun tree =>
      retain? ((root.at? place.dropLast).bind construct?) tree

theorem at?_concat (root : Tree) (place : Address) (index : Nat) :
    root.at? (place ++ [index]) =
      (root.at? place).bind fun tree => tree.children[index]? :=
  descend_concat Tree.children root place index

theorem keptAt?_concat {root tree : Tree} {place : Address}
    (h : root.at? place = some tree) (index : Nat) :
    root.keptAt? (place ++ [index]) =
      tree.children[index]?.bind fun child => retain? tree.construct? child := by
  rw [keptAt?, if_neg (List.concat_ne_nil _ _), at?_concat, List.dropLast_concat, h]
  rfl

/-- The nearest proper ancestor that is kept, or the root if there is none. -/
structure NearestKept (root : Tree) (place above : Address) : Prop where
  isPrefix : above <+: place
  proper : above ≠ place
  kept : above = [] ∨ (root.keptAt? above).isSome
  /-- Nothing on the way from the ancestor to the place is kept. -/
  between : ∀ other, above <+: other → other <+: place → other ≠ above →
    other ≠ place → root.keptAt? other = none

/-- The children of a kept node, and those of the root, have it as their nearest
kept ancestor. -/
theorem nearestKept_child {root : Tree} {place : Address}
    (h : place = [] ∨ (root.keptAt? place).isSome) (index : Nat) :
    NearestKept root (place ++ [index]) place where
  isPrefix := List.prefix_append _ _
  proper := fun heq => by simpa using congrArg List.length heq
  kept := h
  between := by
    intro other habove hbelow hneAbove hneBelow
    rcases List.prefix_concat_iff.1 hbelow with heq | hshort
    · exact absurd heq hneBelow
    · exact absurd (hshort.eq_of_length_le habove.length_le) hneAbove

/-- The children of a forgotten node have the nearest kept ancestor that it
has. -/
theorem NearestKept.child {root : Tree} {place above : Address}
    (h : NearestKept root place above) (hplace : root.keptAt? place = none)
    (index : Nat) : NearestKept root (place ++ [index]) above where
  isPrefix := h.isPrefix.trans (List.prefix_append _ _)
  proper := by
    intro heq
    have hlength := h.isPrefix.length_le
    rw [heq, List.length_append, List.length_singleton] at hlength
    omega
  kept := h.kept
  between := by
    intro other habove hbelow hneAbove hneBelow
    rcases List.prefix_concat_iff.1 hbelow with heq | hshort
    · exact absurd heq hneBelow
    · by_cases heq : other = place
      · rw [heq]
        exact hplace
      · exact h.between other habove hshort hneAbove heq

/-- Every place below the root has a nearest kept ancestor. -/
theorem exists_nearestKept (root : Tree) {place : Address} (h : place ≠ []) :
    ∃ above, NearestKept root place above := by
  induction place using List.reverseRecOn with
  | nil => exact absurd rfl h
  | append_singleton place index ih =>
      by_cases hroot : place = []
      · exact ⟨place, nearestKept_child (Or.inl hroot) index⟩
      · cases hkept : root.keptAt? place with
        | some kept =>
            have hsome : (root.keptAt? place).isSome := by rw [hkept]; rfl
            exact ⟨place, nearestKept_child (Or.inr hsome) index⟩
        | none =>
            obtain ⟨above, habove⟩ := ih hroot
            exact ⟨above, habove.child hkept index⟩

end Tree

/-- A source file that is read has no fault. -/
theorem eq_toUnit_of_parse {path text : String} {unit : SourceUnit}
    (h : parse path text = .ok unit) :
    unit = (Tree.ofSource text).toUnit path ∧ (Tree.ofSource text).hasFault = false := by
  rw [parse] at h
  split at h
  next => cases h
  next hfault =>
    cases h
    exact ⟨rfl, Bool.eq_false_iff.2 hfault⟩

end JavaSurvey.Java
