import JavaSurvey.Proofs.CallPairs
import JavaSurvey.Proofs.PlacedTrees
import Mathlib.Data.List.Flatten
import Mathlib.Data.List.Perm.Basic

/-!
# The members of types

A method or a field belongs to the type that is the nearest kept node around it.
Whether that is the type in whose body it was declared depends on what is kept in
between: what is declared in an enum, in a method or in a nested type stays there,
because these are kept.

An anonymous class is not kept. What it declares belongs to whatever is kept around
its expression, mostly a method, a field or an initialiser. But there are two places
in a type with nothing kept around them: its head, where annotations may hold any
expression, and a compact constructor in its body. There the type takes over what
anonymous classes declare; `annotated_type_has_stray` has an example.

## Main results

* `Tree.filter_lowerAll`: the members among what trees become.
* `Tree.perm_exposedBelow`: the members of a type are its own and the stray ones.
* `Tree.exists_creation_of_mem_strays`: who declares stray members.
* `Tree.members_of_types`: when all types have their own members only.
-/

namespace JavaSurvey.Syntax

/-- Whether a node is a member of the type in which it stands directly. -/
def Node.isMember (node : Node) : Bool :=
  node.kind == .method || node.kind == .field

/-- The methods and fields that stand directly in a node. -/
def Node.members (node : Node) : List Node :=
  node.children.filter isMember

end JavaSurvey.Syntax

namespace JavaSurvey.Java

open Syntax (Node NodeKind SourceUnit View)
open scoped List

namespace Tree

/-! ## Types and members -/

/-- Whether a node is a class or an interface. -/
def isType (tree : Tree) : Bool :=
  tree.construct? == some .classDeclaration ||
    tree.construct? == some .interfaceDeclaration

/-- Whether a node declares fields or constants. -/
def isField (tree : Tree) : Bool :=
  tree.construct? == some .fieldDeclaration ||
    tree.construct? == some .constantDeclaration

/-- Whether a node is a declaration that becomes a member. -/
def isMember (tree : Tree) : Bool :=
  tree.isDeclaration || tree.isField

/-- Whether a node is the body of a class or an interface. -/
def isBody (tree : Tree) : Bool :=
  isTypeBody tree.construct?

/-- The classes and interfaces below a tree, in pre-order. -/
def types (tree : Tree) : List Tree :=
  tree.descendants.filter isType

/-- The declarations that stand directly in the body of a type. -/
def ownMembers (type : Tree) : List Tree :=
  (type.children.filter isBody).flatMap fun body => body.children.filter isMember

/-- What a class or an interface becomes. -/
def typeNode (tree : Tree) : Node :=
  ⟨.type, tree.name, tree.span, 0, tree.lowered⟩

/-- What a member becomes. -/
def memberNode (tree : Tree) : Node :=
  if tree.isDeclaration then
    ⟨.method, tree.name, tree.span, tree.parameterCount, tree.lowered⟩
  else ⟨.field, tree.firstDeclaredName, tree.span, 0, tree.lowered⟩

/-! ## Exposed members -/

/-- Whether a construct is kept where it stands in `parent`. -/
def isKept (parent : Option Construct) : Construct → Bool
  | .packageDeclaration | .classDeclaration | .interfaceDeclaration => true
  | .methodDeclaration | .constructorDeclaration | .methodInvocation => true
  | .fieldDeclaration | .constantDeclaration | .staticInitializer => true
  | .enumDeclaration | .recordDeclaration | .annotationTypeDeclaration => true
  | .block => isTypeBody parent
  | _ => false

mutual

/-- The members at or below a tree in `parent` around which nothing is kept. -/
def exposed (parent : Option Construct) : Tree → List Tree
  | .leaf _ _ => []
  | .node role construct span children =>
    if isMember (.node role construct span children) then
      [.node role construct span children]
    else if isKept parent construct then []
    else exposedAll (some construct) children

/-- The members at or below several trees around which nothing is kept. -/
def exposedAll (parent : Option Construct) : List Tree → List Tree
  | [] => []
  | tree :: rest => exposed parent tree ++ exposedAll parent rest

end

/-- The members below a tree around which nothing else is kept. -/
def exposedBelow (tree : Tree) : List Tree :=
  exposedAll tree.construct? tree.children

/-- The parts of a type that hide nothing: its head, and compact constructors. -/
def openParts (type : Tree) : List Tree :=
  (type.children.filter fun child => !child.isBody) ++
    (type.children.filter isBody).flatMap fun body =>
      body.children.filter isCompactConstructor

/-- The members that a type takes over from its open parts. -/
def strays (type : Tree) : List Tree :=
  type.openParts.flatMap (exposed none)

/-! ## What becomes of members -/

/-- What has a name bears it as a text. -/
def HasNames (trees : List Tree) : Prop :=
  ∀ node ∈ trees, node.construct?.any bearsName = true → node.nameText?.isSome = true

theorem hasNames_descendants {tree : Tree} (h : tree.NamedThroughout) :
    HasNames tree.descendants := by
  intro node hnode hbears
  exact isSome_nameText? (h node hnode hbears)

/-- Methods and fields come from members, and types from classes and interfaces. -/
theorem kind_of_retain? {parent : Option Construct} {tree : Tree} {kept : Node}
    (h : retain? parent tree = some kept) :
    kept.isMember = tree.isMember ∧ (kept.kind = .type → tree.isType = true) := by
  unfold retain? at h
  dsimp only at h
  split at h
  case h_13 hconstruct =>
    split at h <;> cases h
    rw [isMember, isDeclaration, isField, isType, hconstruct]
    exact ⟨rfl, fun hkind => by cases hkind⟩
  case h_14 => cases h
  -- The constructs that are kept without a name, and those that need one.
  all_goals
    next hconstruct =>
      first
        | cases h
        | obtain ⟨name, _, rfl⟩ := Option.map_eq_some_iff.1 h
      rw [isMember, isDeclaration, isField, isType, hconstruct]
      exact ⟨rfl, fun hkind => by first | rfl | cases hkind⟩

theorem isSome_retain? (parent : Option Construct) {tree : Tree} {construct : Construct}
    (hconstruct : tree.construct? = some construct)
    (hname : bearsName construct = true → tree.nameText?.isSome = true) :
    (retain? parent tree).isSome = isKept parent construct := by
  rw [retain?, hconstruct]
  cases construct
  case block =>
    rw [isKept]
    cases isTypeBody parent <;> rfl
  all_goals first
    | rfl
    | exact Option.isSome_map.trans (hname rfl)

theorem retain?_of_isMember (parent : Option Construct) {tree : Tree}
    (hmember : tree.isMember = true)
    (hname : tree.isDeclaration = true → tree.nameText?.isSome = true) :
    retain? parent tree = some { tree.memberNode with children := [] } := by
  cases hdeclaration : tree.isDeclaration with
  | true =>
      obtain ⟨text, htext⟩ := Option.isSome_iff_exists.1 (hname hdeclaration)
      rw [arises_method.retained parent tree hdeclaration, memberNode, hdeclaration,
        if_pos rfl, name, htext]
      rfl
  | false =>
      rw [isMember, hdeclaration, Bool.false_or, isField, Bool.or_eq_true, beq_iff_eq,
        beq_iff_eq] at hmember
      rw [memberNode, hdeclaration, if_neg Bool.false_ne_true]
      rcases hmember with hconstruct | hconstruct <;> rw [retain?, hconstruct]

theorem lower_of_isMember (parent : Option Construct) {tree : Tree}
    (hmember : tree.isMember = true)
    (hname : tree.isDeclaration = true → tree.nameText?.isSome = true) :
    lower parent tree = [tree.memberNode] := by
  have hkept := retain?_of_isMember parent hmember hname
  cases tree with
  | leaf role token => cases hmember
  | node role construct span children =>
      rw [lower, hkept]
      refine congrArg (fun node => [node]) ?_
      unfold memberNode
      split <;> rfl

theorem isMember_memberNode (tree : Tree) : tree.memberNode.isMember = true := by
  rw [memberNode]
  split <;> rfl

mutual

theorem filter_lower (parent : Option Construct) : (tree : Tree) → HasNames tree.nodes →
    (lower parent tree).filter Node.isMember = (exposed parent tree).map memberNode
  | .leaf _ _ => fun _ => rfl
  | .node role construct span children => by
      intro hnames
      have hchildren := filter_lowerAll (some construct) children fun node hnode =>
        hnames node (List.mem_cons_of_mem _ hnode)
      have hname := hnames _ List.mem_cons_self
      have hsome := isSome_retain? parent
        (rfl : (node role construct span children).construct? = some construct) hname
      by_cases hmember : isMember (.node role construct span children) = true
      · rw [exposed, if_pos hmember, lower_of_isMember parent hmember fun hdeclaration =>
          hname (bearsName_of_goesByName (goesByName_of_isDeclaration hdeclaration))]
        exact List.filter_cons_of_pos (isMember_memberNode _)
      rw [lower, exposed, if_neg hmember]
      cases hretain : retain? parent (.node role construct span children) with
      | none =>
          rw [hretain] at hsome
          rw [← hsome, Option.isSome_none, if_neg Bool.false_ne_true]
          exact hchildren
      | some kept =>
          rw [hretain] at hsome
          rw [← hsome, Option.isSome_some, if_pos rfl, List.map_nil]
          refine List.filter_cons_of_neg ?_
          rw [← (kind_of_retain? hretain).1] at hmember
          exact hmember

theorem filter_lowerAll (parent : Option Construct) : (trees : List Tree) →
    HasNames (nodesOfAll trees) →
    (lowerAll parent trees).filter Node.isMember =
      (exposedAll parent trees).map memberNode
  | [] => fun _ => rfl
  | tree :: rest => by
      intro hnames
      rw [lowerAll, exposedAll, List.filter_append, List.map_append,
        filter_lower parent tree fun node hnode =>
          hnames node (List.mem_append_left _ hnode),
        filter_lowerAll parent rest fun node hnode =>
          hnames node (List.mem_append_right _ hnode)]

end

/-- Types come from classes and interfaces. -/
theorem arises_type : Arises .type isType fun _ => 0 where
  retained := by
    intro parent tree h
    rw [isType, Bool.or_eq_true, beq_iff_eq, beq_iff_eq] at h
    rcases h with h | h <;> rw [retain?, h]
  accepted := fun _ _ _ h => (kind_of_retain? h).2

theorem bearsName_of_isType {tree : Tree} (h : tree.isType = true) :
    tree.construct?.any bearsName = true := by
  rw [isType, Bool.or_eq_true, beq_iff_eq, beq_iff_eq] at h
  rcases h with h | h <;> rw [h] <;> rfl

theorem map_node_types_toUnit (path : String) {tree : Tree} (h : tree.NamedThroughout) :
    (tree.toUnit path).types.map (·.node) = tree.types.map typeNode := by
  rw [Metrics.map_node_types, Node.ofKind, Node.preorder_eq, List.filter_cons_of_neg
    (by exact Bool.false_ne_true)]
  exact filter_kind_preorderAll_lowered arises_type fun node hnode htype =>
    hasNames_descendants h node hnode (bearsName_of_isType htype)

/-- The members of a type are the members below it around which it is the nearest
kept node. -/
theorem members_typeNode {tree type : Tree} (h : tree.NamedThroughout)
    (htype : type ∈ tree.types) :
    type.typeNode.members = type.exposedBelow.map memberNode := by
  refine filter_lowerAll type.construct? type.children fun node hnode => ?_
  exact hasNames_descendants h node
    (descendants_subset (List.mem_of_mem_filter htype) hnode)

/-! ## Own and stray members -/

theorem exposedAll_eq_flatMap (parent : Option Construct) (trees : List Tree) :
    exposedAll parent trees = trees.flatMap (exposed parent) := by
  induction trees with
  | nil => rfl
  | cons tree trees ih => rw [exposedAll, ih, List.flatMap_cons]

/-- Of the parent it only matters whether it is a body. -/
theorem exposed_congr {parent other : Option Construct}
    (h : isTypeBody parent = isTypeBody other) (tree : Tree) :
    exposed parent tree = exposed other tree := by
  cases tree with
  | leaf role token => rfl
  | node role construct span children =>
      have hkept : isKept parent construct = isKept other construct := by
        unfold isKept
        split
        all_goals first | rfl | exact h
      rw [exposed, exposed, hkept]

theorem exposed_of_isMember (parent : Option Construct) {tree : Tree}
    (h : tree.isMember = true) : exposed parent tree = [tree] := by
  cases tree with
  | leaf role token => cases h
  | node role construct span children => rw [exposed, if_pos h]

theorem exposed_of_isBody (parent : Option Construct) {body : Tree}
    (h : body.isBody = true) :
    exposed parent body = body.children.flatMap (exposed body.construct?) := by
  cases body with
  | leaf role token => cases h
  | node role construct span children =>
      rw [isBody, isTypeBody, Bool.or_eq_true, beq_iff_eq, beq_iff_eq] at h
      rw [← exposedAll_eq_flatMap]
      rcases h with h | h <;> cases h <;> rfl

theorem exposed_of_isCompactConstructor (parent : Option Construct) {tree : Tree}
    (h : tree.isCompactConstructor = true) : exposed parent tree = exposed none tree := by
  cases tree with
  | leaf role token => rfl
  | node role construct span children =>
      rw [isCompactConstructor, beq_iff_eq] at h
      cases h
      rfl

/-- All other parts of a body are kept. -/
theorem exposed_of_bodyPart {parent : Option Construct} {tree : Tree}
    (hparent : isTypeBody parent = true)
    (hpart : ∀ construct ∈ tree.construct?, construct ∈ bodyParts)
    (hmember : tree.isMember = false) (hcompact : tree.isCompactConstructor = false) :
    exposed parent tree = [] := by
  cases tree with
  | leaf role token => rfl
  | node role construct span children =>
      have hkept : isKept parent construct = true := by
        have hmem := hpart construct rfl
        simp only [bodyParts, List.mem_cons, List.not_mem_nil, or_false] at hmem
        rcases hmem with rfl | rfl | rfl | rfl | rfl | rfl | rfl | rfl | rfl | rfl | rfl | rfl
        all_goals first
          | rfl
          | exact hparent
          | cases hcompact
      rw [exposed, hmember, if_neg Bool.false_ne_true, hkept, if_pos rfl]

/-- In a body, its members are exposed, and what is exposed in compact constructors. -/
theorem perm_exposed_parts {parent : Option Construct} (hparent : isTypeBody parent = true)
    {parts : List Tree}
    (h : ∀ part ∈ parts, ∀ construct ∈ part.construct?, construct ∈ bodyParts) :
    (parts.flatMap (exposed parent)).Perm
      (parts.filter isMember ++
        (parts.filter isCompactConstructor).flatMap (exposed none)) := by
  induction parts with
  | nil => exact List.Perm.nil
  | cons part parts ih =>
      obtain ⟨hpart, hparts⟩ := List.forall_mem_cons.1 h
      rw [List.flatMap_cons]
      cases hcompact : part.isCompactConstructor with
      | true =>
          have hmember : part.isMember = false := by
            rw [isCompactConstructor, beq_iff_eq] at hcompact
            rw [isMember, isDeclaration, isField, hcompact]
            rfl
          rw [exposed_of_isCompactConstructor parent hcompact, List.filter_cons_of_pos hcompact,
            List.filter_cons_of_neg (Bool.eq_false_iff.1 hmember), List.flatMap_cons]
          exact ((ih hparts).append_left _).trans (List.perm_append_comm_assoc _ _ _)
      | false =>
          rw [List.filter_cons_of_neg (Bool.eq_false_iff.1 hcompact)]
          cases hmember : part.isMember with
          | true =>
              rw [exposed_of_isMember parent hmember, List.filter_cons_of_pos hmember]
              exact (ih hparts).cons part
          | false =>
              rw [exposed_of_bodyPart hparent hpart hmember hcompact,
                List.filter_cons_of_neg (Bool.eq_false_iff.1 hmember)]
              exact ih hparts

theorem mem_nodes_self (tree : Tree) : tree ∈ tree.nodes := by
  rw [nodes_eq]
  exact List.mem_cons_self

theorem descendants_subset_self (tree : Tree) : tree.descendants ⊆ tree.nodes := by
  rw [nodes_eq]
  exact List.subset_cons_self _ _

theorem nodes_subset_nodes {tree child : Tree} (h : child ∈ tree.children) :
    child.nodes ⊆ tree.nodes :=
  List.Subset.trans (nodes_subset_descendants h) (descendants_subset_self tree)

theorem Placed.descendant {tree node : Tree} (h : tree.Placed)
    (hnode : node ∈ tree.descendants) : node.Placed := by
  intro other hother
  rw [nodes_eq] at hother
  rcases List.mem_cons.1 hother with rfl | hbelow
  · exact h other (descendants_subset_self tree hnode)
  · exact h other (descendants_subset_self tree (descendants_subset hnode hbelow))

theorem Placed.child {tree child : Tree} (h : tree.Placed)
    (hchild : child ∈ tree.children) : child.Placed :=
  h.descendant (nodes_subset_descendants hchild (mem_nodes_self child))

/-- A child is in its place. -/
theorem Placed.mayStandIn {tree child : Tree} {parent inner : Construct} (h : tree.Placed)
    (hchild : child ∈ tree.children) (hparent : tree.construct? = some parent)
    (hinner : child.construct? = some inner) : mayStandIn parent inner = true := by
  have hall := h tree (mem_nodes_self tree) child hchild inner hinner
  rw [hparent] at hall
  exact hall

theorem Placed.mem_bodyParts {body : Tree} (h : body.Placed) (hbody : body.isBody = true) :
    ∀ part ∈ body.children, ∀ construct ∈ part.construct?, construct ∈ bodyParts := by
  intro part hpart construct hconstruct
  cases hparent : body.construct? with
  | none =>
      rw [isBody, hparent] at hbody
      cases hbody
  | some parent =>
      have hplace := h.mayStandIn hpart hparent hconstruct
      rw [isBody, hparent] at hbody
      rw [Tree.mayStandIn, hbody, Bool.and_eq_true] at hplace
      exact List.contains_iff_mem.1 hplace.2

theorem ownMembers_sublist (type : Tree) : type.ownMembers.Sublist type.exposedBelow := by
  rw [ownMembers, exposedBelow, exposedAll_eq_flatMap]
  refine List.Sublist.trans (List.Sublist.flatMap_right _ fun body hbody => ?_)
    (List.filter_sublist.flatMap (exposed type.construct?))
  rw [exposed_of_isBody _ (List.mem_filter.1 hbody).2,
    ← List.flatMap_singleton' (body.children.filter isMember)]
  refine List.Sublist.trans (List.Sublist.flatMap_right _ fun member hmember => ?_)
    (List.filter_sublist.flatMap (exposed body.construct?))
  rw [exposed_of_isMember _ (List.mem_filter.1 hmember).2]

/-- The members that are exposed in a type are its own and the stray ones. -/
theorem perm_exposedBelow {type : Tree} (htype : type.isType = true) (h : type.Placed) :
    type.exposedBelow.Perm (type.ownMembers ++ type.strays) := by
  have hhead : ∀ part, exposed type.construct? part = exposed none part := by
    refine exposed_congr ?_
    rw [isType, Bool.or_eq_true, beq_iff_eq, beq_iff_eq] at htype
    rcases htype with htype | htype <;> rw [htype] <;> rfl
  have hbodies : ∀ body ∈ type.children.filter isBody,
      (exposed type.construct? body).Perm (body.children.filter isMember ++
        (body.children.filter isCompactConstructor).flatMap (exposed none)) := by
    intro body hmem
    obtain ⟨hchild, hbody⟩ := List.mem_filter.1 hmem
    rw [exposed_of_isBody _ hbody]
    exact perm_exposed_parts hbody ((h.child hchild).mem_bodyParts hbody)
  rw [exposedBelow, exposedAll_eq_flatMap, strays, openParts, List.flatMap_append,
    List.flatMap_assoc, ownMembers]
  calc type.children.flatMap (exposed type.construct?)
    _ ~ (type.children.filter isBody ++ type.children.filter fun child =>
          !child.isBody).flatMap (exposed type.construct?) :=
        (List.filter_append_perm isBody type.children).symm.flatMap_right _
    _ = (type.children.filter isBody).flatMap (exposed type.construct?) ++
          (type.children.filter fun child => !child.isBody).flatMap (exposed none) := by
        rw [List.flatMap_append, funext hhead]
    _ ~ (type.children.filter isBody).flatMap (fun body => body.children.filter isMember ++
            (body.children.filter isCompactConstructor).flatMap (exposed none)) ++
          (type.children.filter fun child => !child.isBody).flatMap (exposed none) :=
        (List.Perm.flatMap_left _ hbodies).append_right _
    _ ~ _ := by
        refine ((List.flatMap_append_perm _ _ _).symm.append_right _).trans ?_
        rw [List.append_assoc]
        exact List.perm_append_comm.append_left _

/-- A type has its own members only exactly if there are no stray ones. -/
theorem members_eq_ownMembers_iff {tree type : Tree} (hnamed : tree.NamedThroughout)
    (hplaced : tree.Placed) (htype : type ∈ tree.types) :
    type.typeNode.members = type.ownMembers.map memberNode ↔ type.strays = [] := by
  obtain ⟨hbelow, hisType⟩ := List.mem_filter.1 htype
  have hperm := perm_exposedBelow hisType (hplaced.descendant hbelow)
  rw [members_typeNode hnamed htype]
  constructor
  · intro hmembers
    have hlength := congrArg List.length hmembers
    rw [List.length_map, List.length_map, hperm.length_eq, List.length_append] at hlength
    exact List.length_eq_zero_iff.1 (by omega)
  · intro hstrays
    rw [hstrays, List.append_nil] at hperm
    rw [(ownMembers_sublist type).eq_of_length hperm.length_eq.symm]

/-! ## Who declares stray members -/

/-- A member of an anonymous class whose expression stands at or below a tree. -/
def OfAnonymousClass (member tree : Tree) : Prop :=
  ∃ creation ∈ tree.nodes, creation.construct? = some .objectCreation ∧
    member ∈ creation.ownMembers

/-- The constructs of members. -/
def memberConstructs : List Construct :=
  [.methodDeclaration, .constructorDeclaration, .fieldDeclaration, .constantDeclaration]

/-- The constructs in which members stand directly. -/
def memberHomes : List Construct :=
  [.program, .classBody, .interfaceBody, .enumMembers, .annotationTypeBody]

/-- The parts of an enum around the bodies of its constants and its members. -/
def enumParts : List Construct :=
  [.enumBody, .enumConstant]

theorem exists_mem_memberConstructs {tree : Tree} (h : tree.isMember = true) :
    ∃ construct ∈ memberConstructs, tree.construct? = some construct := by
  rw [isMember, isDeclaration, isField] at h
  simp only [Bool.or_eq_true, beq_iff_eq] at h
  rcases h with (h | h) | (h | h)
  all_goals exact ⟨_, by decide, h⟩

theorem mem_homes {outer inner : Construct} {homes : List Construct}
    (hhomes : homes? inner = some homes) (hplace : mayStandIn outer inner = true) :
    outer ∈ homes := by
  rw [mayStandIn, hhomes, Option.all_some, Bool.and_eq_true] at hplace
  exact List.contains_iff_mem.1 hplace.1

theorem mem_memberHomes {outer inner : Construct} (hinner : inner ∈ memberConstructs)
    (hplace : mayStandIn outer inner = true) : outer ∈ memberHomes := by
  have hhomes : ∀ inner ∈ memberConstructs, ∃ homes, homes? inner = some homes ∧
      homes ⊆ memberHomes := by
    simp only [memberConstructs, List.forall_mem_cons]
    exact ⟨⟨_, rfl, by decide⟩, ⟨_, rfl, by decide⟩, ⟨_, rfl, by decide⟩,
      ⟨_, rfl, by decide⟩, List.forall_mem_nil _⟩
  obtain ⟨homes, hhomes, hsubset⟩ := hhomes inner hinner
  exact hsubset (mem_homes hhomes hplace)

/-- Going up from the places of members, one comes to something kept, to an enum or
to an anonymous class. -/
theorem mem_enumParts_or_creation {parent : Option Construct} {outer inner : Construct}
    (hinner : inner ∈ memberHomes ++ enumParts) (hplace : mayStandIn outer inner = true)
    (hkept : isKept parent outer = false) :
    outer ∈ enumParts ∨ outer = .objectCreation ∧ inner = .classBody := by
  simp only [memberHomes, enumParts, List.cons_append, List.nil_append, List.mem_cons,
    List.not_mem_nil, or_false] at hinner
  rcases hinner with rfl | rfl | rfl | rfl | rfl | rfl | rfl
  case inl => cases mem_homes rfl hplace
  case inr.inl =>
    have hhome := mem_homes rfl hplace
    simp only [List.mem_cons, List.not_mem_nil, or_false] at hhome
    rcases hhome with rfl | rfl | rfl | rfl
    · cases hkept
    · cases hkept
    · exact Or.inl (by decide)
    · exact Or.inr ⟨rfl, rfl⟩
  -- All others have one home: the enum around its parts, or something kept.
  all_goals
    cases List.mem_singleton.1 (mem_homes rfl hplace)
    first
      | exact Or.inl (by decide)
      | cases hkept

/-- How a tree comes to expose a member: it is the member or what the member stands
in, it is a part of an enum, or the member is one of an anonymous class. -/
inductive Exposes (member tree : Tree) : Prop where
  | itself (heq : member = tree)
  | child (hchild : member ∈ tree.children)
  | enumPart {construct : Construct} (hconstruct : tree.construct? = some construct)
      (hpart : construct ∈ enumParts)
  | anonymous (h : OfAnonymousClass member tree)

theorem exists_construct_of_mem_children {tree child : Tree} (h : child ∈ tree.children) :
    ∃ construct, tree.construct? = some construct := by
  cases tree with
  | leaf role token => cases h
  | node role construct span children => exact ⟨construct, rfl⟩

/-- What exposes a member directly stands where members stand. -/
theorem Placed.mem_memberHomes {tree member : Tree} {construct : Construct} (h : tree.Placed)
    (hconstruct : tree.construct? = some construct) (hchild : member ∈ tree.children)
    (hmember : member.isMember = true) : construct ∈ memberHomes := by
  obtain ⟨inner, hmem, hinner⟩ := exists_mem_memberConstructs hmember
  exact Tree.mem_memberHomes hmem (h.mayStandIn hchild hconstruct hinner)

/-- What a child exposes is exposed by a tree that is not kept, and in one of these
ways again. -/
theorem Exposes.up {member child tree : Tree} {parent : Option Construct}
    {construct : Construct} (h : Exposes member child) (hmember : member.isMember = true)
    (hplaced : tree.Placed) (hchild : child ∈ tree.children)
    (hconstruct : tree.construct? = some construct)
    (hkept : isKept parent construct = false) : Exposes member tree := by
  cases h with
  | itself heq => exact .child (heq ▸ hchild)
  | child hbelow =>
      obtain ⟨inner, hinner⟩ := exists_construct_of_mem_children hbelow
      have hhome := (hplaced.child hchild).mem_memberHomes hinner hbelow hmember
      rcases mem_enumParts_or_creation (List.mem_append_left _ hhome)
        (hplaced.mayStandIn hchild hconstruct hinner) hkept with hpart | ⟨rfl, rfl⟩
      · exact .enumPart hconstruct hpart
      · have hbody : child.isBody = true := by rw [isBody, hinner]; rfl
        refine .anonymous ⟨tree, mem_nodes_self tree, hconstruct, List.mem_flatMap.2 ?_⟩
        exact ⟨child, List.mem_filter.2 ⟨hchild, hbody⟩, List.mem_filter.2 ⟨hbelow, hmember⟩⟩
  | enumPart hinner hpart =>
      rcases mem_enumParts_or_creation (List.mem_append_right _ hpart)
        (hplaced.mayStandIn hchild hconstruct hinner) hkept with houter | ⟨_, rfl⟩
      · exact .enumPart hconstruct houter
      · exact absurd hpart (by decide)
  | anonymous hanonymous =>
      obtain ⟨creation, hcreation, hrest⟩ := hanonymous
      exact .anonymous ⟨creation, nodes_subset_nodes hchild hcreation, hrest⟩

mutual

theorem exposes_of_mem_exposed (parent : Option Construct) : (tree : Tree) → tree.Placed →
    ∀ member ∈ exposed parent tree, member.isMember = true ∧ Exposes member tree
  | .leaf _ _ => by
      intro _ member hmem
      cases hmem
  | .node role construct span children => by
      intro hplaced member hmem
      rw [exposed] at hmem
      by_cases hself : isMember (.node role construct span children) = true
      · rw [if_pos hself, List.mem_singleton] at hmem
        exact ⟨hmem ▸ hself, .itself hmem⟩
      rw [if_neg hself] at hmem
      by_cases hkept : isKept parent construct = true
      · rw [if_pos hkept] at hmem
        cases hmem
      rw [if_neg hkept] at hmem
      obtain ⟨child, hchild, hmember, hexposes⟩ :=
        exposes_of_mem_exposedAll (some construct) children
          (fun child hchild => hplaced.child hchild) member hmem
      exact ⟨hmember, hexposes.up hmember hplaced hchild rfl (Bool.eq_false_iff.2 hkept)⟩

theorem exposes_of_mem_exposedAll (parent : Option Construct) : (trees : List Tree) →
    (∀ tree ∈ trees, tree.Placed) → ∀ member ∈ exposedAll parent trees,
    ∃ tree ∈ trees, member.isMember = true ∧ Exposes member tree
  | [] => by
      intro _ member hmem
      cases hmem
  | tree :: rest => by
      intro hplaced member hmem
      obtain ⟨htree, hrest⟩ := List.forall_mem_cons.1 hplaced
      rcases List.mem_append.1 hmem with hmem | hmem
      · exact ⟨tree, List.mem_cons_self, exposes_of_mem_exposed parent tree htree member hmem⟩
      · obtain ⟨other, hother, h⟩ := exposes_of_mem_exposedAll parent rest hrest member hmem
        exact ⟨other, List.mem_cons_of_mem tree hother, h⟩

end

/-- What exposes a member has few homes itself, unless the member is one of an
anonymous class. -/
theorem anonymous_or_confined {parent : Option Construct} {member tree : Tree}
    (hplaced : tree.Placed) (h : member ∈ exposed parent tree) :
    OfAnonymousClass member tree ∨
      ∃ construct, tree.construct? = some construct ∧ (homes? construct).isSome = true := by
  obtain ⟨hmember, hexposes⟩ := exposes_of_mem_exposed parent tree hplaced member h
  cases hexposes with
  | itself heq =>
      subst heq
      obtain ⟨construct, hmem, hconstruct⟩ := exists_mem_memberConstructs hmember
      have hhomes : ∀ inner ∈ memberConstructs, (homes? inner).isSome = true := by decide
      exact Or.inr ⟨construct, hconstruct, hhomes construct hmem⟩
  | child hchild =>
      obtain ⟨construct, hconstruct⟩ := exists_construct_of_mem_children hchild
      have hhomes : ∀ home ∈ memberHomes, (homes? home).isSome = true := by decide
      exact Or.inr ⟨construct, hconstruct,
        hhomes construct (hplaced.mem_memberHomes hconstruct hchild hmember)⟩
  | @enumPart construct hconstruct hpart =>
      have hhomes : ∀ part ∈ enumParts, (homes? part).isSome = true := by decide
      exact Or.inr ⟨construct, hconstruct, hhomes construct hpart⟩
  | anonymous hanonymous => exact Or.inl hanonymous

/-- Of the constructs with few homes only its body stands in a type. -/
theorem isTypeBody_of_mayStandIn {type : Tree} {outer inner : Construct}
    (htype : type.isType = true) (houter : type.construct? = some outer)
    (hconfined : (homes? inner).isSome = true) (hplace : mayStandIn outer inner = true) :
    isTypeBody (some inner) = true := by
  rw [isType, houter, Bool.or_eq_true, beq_iff_eq, beq_iff_eq] at htype
  obtain ⟨homes, hhomes⟩ := Option.isSome_iff_exists.1 hconfined
  have hhome := mem_homes hhomes hplace
  unfold homes? at hhomes
  split at hhomes <;> cases hhomes
  all_goals first
    | rfl
    | rcases htype with htype | htype <;> cases htype <;> revert hhome <;> decide

/-- Stray members are those of anonymous classes, in the head of the type or in a
compact constructor. -/
theorem exists_creation_of_mem_strays {type stray : Tree} (htype : type.isType = true)
    (hplaced : type.Placed) (h : stray ∈ type.strays) :
    ∃ part ∈ type.openParts, OfAnonymousClass stray part := by
  obtain ⟨part, hpart, hexposed⟩ := List.mem_flatMap.1 h
  refine ⟨part, hpart, ?_⟩
  rcases List.mem_append.1 hpart with hhead | hinBody
  · obtain ⟨hchild, hnotBody⟩ := List.mem_filter.1 hhead
    refine (anonymous_or_confined (hplaced.child hchild) hexposed).resolve_right ?_
    rintro ⟨inner, hinner, hconfined⟩
    obtain ⟨outer, houter⟩ := exists_construct_of_mem_children hchild
    have hbody := isTypeBody_of_mayStandIn htype houter hconfined
      (hplaced.mayStandIn hchild houter hinner)
    rw [isBody, hinner, hbody] at hnotBody
    cases hnotBody
  · obtain ⟨body, hbody, hmem⟩ := List.mem_flatMap.1 hinBody
    obtain ⟨hchild, hcompact⟩ := List.mem_filter.1 hmem
    have hplacedPart := (hplaced.child (List.mem_of_mem_filter hbody)).child hchild
    refine (anonymous_or_confined hplacedPart hexposed).resolve_right ?_
    rintro ⟨inner, hinner, hconfined⟩
    rw [isCompactConstructor, hinner, beq_iff_eq, Option.some.injEq] at hcompact
    subst hcompact
    cases hconfined

/-! ## Main result -/

/-- All types of a file have exactly the members that stand in their own bodies. -/
def HasOwnMembers (path : String) (tree : Tree) : Prop :=
  (tree.toUnit path).types.map (·.node.members) =
    tree.types.map fun type => type.ownMembers.map memberNode

theorem hasOwnMembers_iff (path : String) {tree : Tree} (hnamed : tree.NamedThroughout)
    (hplaced : tree.Placed) :
    HasOwnMembers path tree ↔ ∀ type ∈ tree.types, type.strays = [] := by
  have hmembers : (tree.toUnit path).types.map (·.node.members) =
      tree.types.map fun type => type.typeNode.members := by
    have hnodes := congrArg (List.map Node.members) (map_node_types_toUnit path hnamed)
    rw [List.map_map, List.map_map] at hnodes
    exact hnodes
  rw [HasOwnMembers, hmembers, List.map_inj_left]
  exact forall₂_congr fun type htype => members_eq_ownMembers_iff hnamed hplaced htype

/-- The types of a file are its classes and interfaces. A type has the members that
stand in its own body, in their order. Besides them it has the members of anonymous
classes in its head and in compact constructors, if nothing kept is around those. So
all types have their own members only exactly if none has such stray ones. Source text
that is read has the names that this needs, and its members are in their places. -/
theorem members_of_types (path : String) :
    (∀ text unit, parse path text = .ok unit →
      unit = (ofSource text).toUnit path ∧ (ofSource text).NamedThroughout ∧
        (ofSource text).Placed) ∧
    ∀ tree : Tree, tree.NamedThroughout → tree.Placed →
      (tree.toUnit path).types.map (·.node) = tree.types.map typeNode ∧
      (∀ type ∈ tree.types,
        type.typeNode.members = type.exposedBelow.map memberNode ∧
        type.ownMembers.Sublist type.exposedBelow ∧
        type.exposedBelow.Perm (type.ownMembers ++ type.strays) ∧
        ∀ stray ∈ type.strays, ∃ part ∈ type.openParts, OfAnonymousClass stray part) ∧
      (HasOwnMembers path tree ↔ ∀ type ∈ tree.types, type.strays = []) := by
  refine ⟨fun text unit hparse => ?_, fun tree hnamed hplaced => ?_⟩
  · obtain ⟨hunit, hfault⟩ := eq_toUnit_of_parse hparse
    exact ⟨hunit, namedThroughout_ofSource hfault, placed_ofSource hfault⟩
  · refine ⟨map_node_types_toUnit path hnamed, fun type htype => ?_,
      hasOwnMembers_iff path hnamed hplaced⟩
    obtain ⟨hbelow, hisType⟩ := List.mem_filter.1 htype
    have hplacedType := hplaced.descendant hbelow
    exact ⟨members_typeNode hnamed htype, ownMembers_sublist type,
      perm_exposedBelow hisType hplacedType, fun stray =>
        exists_creation_of_mem_strays hisType hplacedType⟩

/-- The method `void name() { }`. -/
def emptyMethod (name : String) : Tree :=
  .node none .methodDeclaration ⟨1, 1⟩
    [.leaf none (onFirstLine .word " " "void"),
      .leaf (some .name) (onFirstLine .word " " name),
      .node (some .parameters) .formalParameters ⟨1, 1⟩
        [.leaf none (onFirstLine .mark "" "("), .leaf none (onFirstLine .mark "" ")")],
      .node (some .body) .block ⟨1, 1⟩
        [.leaf none (onFirstLine .mark " " "\x7b"), .leaf none (onFirstLine .mark " " "\x7d")]]

/-- A class body with one member. -/
def bodyOf (role : Option Role) (member : Tree) : Tree :=
  .node role .classBody ⟨1, 1⟩
    [.leaf none (onFirstLine .mark " " "\x7b"), member,
      .leaf none (onFirstLine .mark " " "\x7d")]

/-- The annotation `@Holds(new Object() { void m() { } })`. -/
def annotationWithClass : Tree :=
  .node none .annotationUse ⟨1, 1⟩
    [.leaf none (onFirstLine .mark "" "@"), .leaf none (onFirstLine .word "" "Holds"),
      .node none .annotationArguments ⟨1, 1⟩
        [.leaf none (onFirstLine .mark "" "("),
          .node none .objectCreation ⟨1, 1⟩
            [.leaf none (onFirstLine .word "" "new"),
              .leaf none (onFirstLine .word " " "Object"),
              .node none .argumentList ⟨1, 1⟩
                [.leaf none (onFirstLine .mark "" "("),
                  .leaf none (onFirstLine .mark "" ")")],
              bodyOf none (emptyMethod "m")],
          .leaf none (onFirstLine .mark "" ")")]]

/-- The tree of a file that holds a class `Outer` with that annotation and a method
`run` alone. -/
def annotatedFile : Tree :=
  .node none .program ⟨1, 1⟩
    [.node none .classDeclaration ⟨1, 1⟩
      [.node none .modifiers ⟨1, 1⟩ [annotationWithClass],
        .leaf none (onFirstLine .word " " "class"),
        .leaf (some .name) (onFirstLine .word " " "Outer"),
        bodyOf (some .body) (emptyMethod "run")]]

/-- In that file the class has two methods, its own behind the stray one. -/
theorem members_of_types_annotated :
    annotatedFile.NamedThroughout ∧ annotatedFile.Placed ∧
      ((annotatedFile.toUnit "Outer.java").types.map fun type =>
        type.node.members.map (·.name)) = [["m", "run"]] ∧
      (annotatedFile.types.map fun type =>
        (type.ownMembers.map name, type.strays.map name)) = [(["run"], ["m"])] ∧
      ∀ type ∈ annotatedFile.types, ∀ stray ∈ type.strays,
        ∃ part ∈ type.openParts, OfAnonymousClass stray part := by
  have hnamed : annotatedFile.NamedThroughout := by decide
  have hplaced : annotatedFile.Placed := by decide
  obtain ⟨htypes, hmembers, -⟩ :=
    (members_of_types "Outer.java").2 annotatedFile hnamed hplaced
  have hnames := congrArg (List.map fun node : Node => node.members.map (·.name)) htypes
  rw [List.map_map] at hnames
  refine ⟨hnamed, hplaced, hnames.trans (by decide), by decide, ?_⟩
  intro type htype
  exact (hmembers type htype).2.2.2

/-- The method of an anonymous class in an annotation becomes a method of the annotated
class, although the tree has no fault and only the other method stands in its body. -/
theorem annotated_type_has_stray :
    annotatedFile.hasFault = false ∧ annotatedFile.NamedThroughout ∧ annotatedFile.Placed ∧
      (annotatedFile.types.map fun type => (type.name, type.ownMembers.map name)) =
        [("Outer", ["run"])] ∧
      ((annotatedFile.toUnit "Outer.java").types.map fun type =>
        (type.name, type.methods.length)) = [("Outer", 2)] ∧
      ¬ HasOwnMembers "Outer.java" annotatedFile := by
  have hnamed : annotatedFile.NamedThroughout := by decide
  have hplaced : annotatedFile.Placed := by decide
  refine ⟨by decide, hnamed, hplaced, by decide, ?_, ?_⟩
  · have hcounts := congrArg
      (List.map fun node : Node => (node.name, node.memberCount .method))
      (map_node_types_toUnit "Outer.java" hnamed)
    rw [List.map_map] at hcounts
    refine Eq.trans (List.map_congr_left fun type _ => ?_) (hcounts.trans (by decide))
    rw [Syntax.TypeDeclaration.methods, View.length_ofNodes]
    rfl
  · rw [hasOwnMembers_iff "Outer.java" hnamed hplaced]
    decide

end Tree

end JavaSurvey.Java
