import JavaSurvey.Proofs.KeptNodes
import Mathlib.Order.Monotone.Basic

/-!
# Where lowering puts the nodes that it keeps

The analysed tree does not tell where its nodes came from. So `trace` lowers a
tree in the same way and writes down the place of each node that is kept;
forgetting the places gives what lowering gives.

What a traced forest holds is said by `Holds`: exactly the kept nodes of a
region of the concrete tree that have the same nearest kept ancestor, each once
and in order, and below each of them the kept nodes next below it. Forests of
neighbouring regions are joined by `Holds.append`, and that is all that lowering
does where it forgets a node.

## Main results

* `Tree.toNodes_traceAll`: traces and lowering agree.
* `Tree.holds_traceAll`: what the trace of the children of a node holds.
* `Tree.keeps_toNode`: from there to addresses in the analysed tree.
* `Tree.toUnit_keeps`: every analysed file against its concrete tree.
-/

namespace JavaSurvey.Java

open Syntax (Node)

/-! ## Traces -/

/-- A node of an analysed tree with the place of the concrete node that it came
from. -/
structure Traced where
  origin : Address
  kept : Node
  children : List Traced

namespace Traced

mutual

/-- The node, without its origin. -/
def toNode : Traced → Node
  | ⟨_, kept, children⟩ => { kept with children := toNodes children }

/-- Several nodes, without their origins. -/
def toNodes : List Traced → List Node
  | [] => []
  | traced :: rest => traced.toNode :: toNodes rest

end

theorem toNodes_eq_map (forest : List Traced) :
    toNodes forest = forest.map toNode := by
  induction forest with
  | nil => rfl
  | cons traced rest ih => rw [toNodes, ih, List.map_cons]

theorem children_toNode (traced : Traced) :
    traced.toNode.children = traced.children.map toNode := by
  cases traced
  rw [toNode, toNodes_eq_map]

/-- What stands at an address of a traced tree. -/
def at? (root : Traced) (address : Address) : Option Traced :=
  descend Traced.children root address

theorem at?_concat (root : Traced) (address : Address) (index : Nat) :
    root.at? (address ++ [index]) =
      (root.at? address).bind fun traced => traced.children[index]? :=
  descend_concat Traced.children root address index

theorem at?_toNode (root : Traced) (address : Address) :
    root.toNode.at? address = (root.at? address).map toNode :=
  descend_map children_toNode root address

end Traced

namespace Tree

mutual

/-- What a tree at a place becomes, with the places of what is kept. -/
def trace (parent : Option Construct) (place : Address) : Tree → List Traced
  | .leaf _ _ => []
  | .node role construct span children =>
    match retain? parent (.node role construct span children) with
    | some kept => [⟨place, kept, traceAll (some construct) place 0 children⟩]
    | none => traceAll (some construct) place 0 children

/-- What the children of a node at a place become, from the child with a given
number on. -/
def traceAll (parent : Option Construct) (place : Address) (index : Nat) :
    List Tree → List Traced
  | [] => []
  | tree :: rest =>
    trace parent (place ++ [index]) tree ++
      traceAll parent place (index + 1) rest

end

mutual

theorem toNodes_trace (parent : Option Construct) (place : Address) :
    (tree : Tree) →
      (trace parent place tree).map Traced.toNode = lower parent tree
  | .leaf role token => rfl
  | .node role construct span children => by
      have hchildren := toNodes_traceAll (some construct) place 0 children
      rw [trace, lower]
      cases retain? parent (.node role construct span children) with
      | none => exact hchildren
      | some kept =>
          simp only [List.map_cons, List.map_nil, Traced.toNode,
            Traced.toNodes_eq_map, hchildren]

/-- Forgetting the places gives what lowering gives. -/
theorem toNodes_traceAll (parent : Option Construct) (place : Address)
    (index : Nat) : (trees : List Tree) →
      (traceAll parent place index trees).map Traced.toNode =
        lowerAll parent trees
  | [] => rfl
  | tree :: rest => by
      rw [traceAll, List.map_append, toNodes_trace parent _ tree,
        toNodes_traceAll parent place (index + 1) rest, lowerAll]

end

/-! ## What a trace holds -/

/-- A forest holds the kept nodes of a region that have `above` as their nearest
kept ancestor, and below each of them the kept nodes next below it. -/
inductive Holds (root : Tree) :
    Address → (Address → Prop) → List Traced → Prop where
  | intro {above : Address} {region : Address → Prop} {forest : List Traced}
      (inside : ∀ traced ∈ forest, region traced.origin)
      (kept : ∀ traced ∈ forest,
        root.keptAt? traced.origin = some traced.kept)
      (nearest : ∀ traced ∈ forest, NearestKept root traced.origin above)
      (below : ∀ traced ∈ forest,
        Holds root traced.origin (traced.origin <+: ·) traced.children)
      (ordered : forest.Pairwise fun first second =>
        Precedes first.origin second.origin)
      (complete : ∀ place, region place → NearestKept root place above →
        (root.keptAt? place).isSome →
        ∃ traced ∈ forest, traced.origin = place) :
      Holds root above region forest

namespace Holds

variable {root : Tree} {above : Address} {region region' : Address → Prop}
  {forest forest' : List Traced}

/-- A region without kept nodes. -/
theorem nil (h : ∀ place, region place → root.keptAt? place = none) :
    Holds root above region [] := by
  refine ⟨by simp, by simp, by simp, by simp, List.Pairwise.nil, ?_⟩
  intro place hplace _ hkept
  rw [h place hplace] at hkept
  cases hkept

/-- Neighbouring regions. -/
theorem append (h : Holds root above region forest)
    (h' : Holds root above region' forest')
    (hordered : ∀ place place', region place → region' place' →
      Precedes place place') :
    Holds root above (fun place => region place ∨ region' place)
      (forest ++ forest') := by
  obtain ⟨inside, kept, nearest, below, ordered, complete⟩ := h
  obtain ⟨inside', kept', nearest', below', ordered', complete'⟩ := h'
  refine ⟨?_, ?_, ?_, ?_, ?_, ?_⟩
  · intro traced htraced
    rcases List.mem_append.1 htraced with hfirst | hsecond
    · exact Or.inl (inside traced hfirst)
    · exact Or.inr (inside' traced hsecond)
  · exact List.forall_mem_append.2 ⟨kept, kept'⟩
  · exact List.forall_mem_append.2 ⟨nearest, nearest'⟩
  · exact List.forall_mem_append.2 ⟨below, below'⟩
  · refine List.pairwise_append.2 ⟨ordered, ordered', ?_⟩
    intro first hfirst second hsecond
    exact hordered _ _ (inside first hfirst) (inside' second hsecond)
  · rintro place (hplace | hplace) hnearest hkept
    · obtain ⟨traced, htraced, heq⟩ := complete place hplace hnearest hkept
      exact ⟨traced, List.mem_append_left _ htraced, heq⟩
    · obtain ⟨traced, htraced, heq⟩ := complete' place hplace hnearest hkept
      exact ⟨traced, List.mem_append_right _ htraced, heq⟩

/-- The region may be described otherwise, as long as it has the same kept
nodes. -/
theorem congr (h : Holds root above region forest)
    (hinside : ∀ place, region place → region' place)
    (hkept : ∀ place, region' place → (root.keptAt? place).isSome →
      NearestKept root place above → region place) :
    Holds root above region' forest := by
  obtain ⟨inside, kept, nearest, below, ordered, complete⟩ := h
  refine ⟨?_, kept, nearest, below, ordered, ?_⟩
  · intro traced htraced
    exact hinside _ (inside traced htraced)
  · intro place hplace hnearest hsome
    exact complete place (hkept place hplace hsome hnearest) hnearest hsome

/-- A kept node covers everything below it. -/
theorem singleton {place : Address} {kept : Node} {children : List Traced}
    (hkept : root.keptAt? place = some kept)
    (hnearest : NearestKept root place above)
    (hchildren : Holds root place (place <+: ·) children) :
    Holds root above (place <+: ·) [⟨place, kept, children⟩] := by
  refine ⟨by simp, by simpa using hkept, by simpa using hnearest,
    by simpa using hchildren, List.pairwise_singleton _ _, ?_⟩
  intro other hother hotherNearest _
  by_cases heq : place = other
  · exact ⟨_, List.mem_singleton.2 rfl, heq⟩
  · -- Otherwise the node itself stands between the other one and `above`.
    have hnone := hotherNearest.between place hnearest.isPrefix hother
      (Ne.symm hnearest.proper) heq
    rw [hkept] at hnone
    cases hnone

end Holds

/-- Nothing is kept below a place where nothing stands. -/
theorem keptAt?_of_isPrefix {root : Tree} {place below : Address}
    (h : root.at? place = none) (hbelow : place <+: below) :
    root.keptAt? below = none := by
  obtain ⟨more, rfl⟩ := hbelow
  have hat : root.at? (place ++ more) = none := by
    rw [at?, descend_append, ← at?, h]
    rfl
  rw [keptAt?, hat]
  split <;> rfl

mutual

/-- What the trace of a node holds that is a child of another one. -/
theorem holds_trace {root parent : Tree} {place above : Address} {index : Nat}
    (hparent : root.at? place = some parent)
    (hnearest : NearestKept root (place ++ [index]) above) : (tree : Tree) →
    parent.children[index]? = some tree →
    Holds root above (place ++ [index] <+: ·)
      (trace parent.construct? (place ++ [index]) tree)
  | .leaf role token, htree => by
      have hkept := keptAt?_concat hparent index
      rw [htree] at hkept
      refine Holds.nil ?_
      intro other hother
      by_cases heq : place ++ [index] = other
      · rw [← heq, hkept]
        rfl
      · obtain ⟨next, hnext⟩ := exists_child_isPrefix hother heq
        refine keptAt?_of_isPrefix ?_ hnext
        rw [at?_concat, at?_concat, hparent, Option.bind_some, htree]
        rfl
  | .node role construct span children, htree => by
      have hat : root.at? (place ++ [index]) =
          some (.node role construct span children) := by
        rw [at?_concat, hparent, Option.bind_some, htree]
      have hkept := keptAt?_concat hparent index
      rw [htree, Option.bind_some] at hkept
      rw [trace]
      cases hretain :
          retain? parent.construct? (.node role construct span children) with
      | none =>
          rw [hretain] at hkept
          have hchildren := holds_traceAll hat
            (fun next => hnearest.child hkept next) children 0 rfl
          refine hchildren.congr ?_ ?_
          · rintro other ⟨next, _, hnext⟩
            exact (List.prefix_append _ _).trans hnext
          · intro other hother hsome _
            have hne : place ++ [index] ≠ other := by
              rintro rfl
              rw [hkept] at hsome
              cases hsome
            obtain ⟨next, hnext⟩ := exists_child_isPrefix hother hne
            exact ⟨next, Nat.zero_le next, hnext⟩
      | some kept =>
          rw [hretain] at hkept
          have hsome : (root.keptAt? (place ++ [index])).isSome := by
            rw [hkept]
            rfl
          have hchildren := holds_traceAll hat
            (fun next => nearestKept_child (Or.inr hsome) next) children 0 rfl
          refine Holds.singleton hkept hnearest (hchildren.congr ?_ ?_)
          · rintro other ⟨next, _, hnext⟩
            exact (List.prefix_append _ _).trans hnext
          · intro other hother _ hotherNearest
            obtain ⟨next, hnext⟩ :=
              exists_child_isPrefix hother hotherNearest.proper
            exact ⟨next, Nat.zero_le next, hnext⟩

/-- What the trace of the children of a node holds, from one child on. -/
theorem holds_traceAll {root parent : Tree} {place above : Address}
    (hparent : root.at? place = some parent)
    (hnearest : ∀ index, NearestKept root (place ++ [index]) above) :
    (trees : List Tree) → (index : Nat) → parent.children.drop index = trees →
    Holds root above (fun other => ∃ i, index ≤ i ∧ place ++ [i] <+: other)
      (traceAll parent.construct? place index trees)
  | [], index, hdrop => by
      refine Holds.nil ?_
      rintro other ⟨i, hi, hother⟩
      refine keptAt?_of_isPrefix ?_ hother
      rw [at?_concat, hparent, Option.bind_some, List.getElem?_eq_none_iff]
      exact (List.drop_eq_nil_iff.1 hdrop).trans hi
  | tree :: rest, index, hdrop => by
      have htree : parent.children[index]? = some tree := by
        have hhead := congrArg List.head? hdrop
        rwa [List.head?_drop] at hhead
      have hrest : parent.children.drop (index + 1) = rest := by
        rw [← List.tail_drop, hdrop]
        rfl
      have hjoined := (holds_trace hparent (hnearest index) tree htree).append
        (holds_traceAll hparent hnearest rest (index + 1) hrest) (by
          rintro first second hfirst ⟨i, hi, hsecond⟩
          exact ⟨place, index, i, hi, hfirst, hsecond⟩)
      rw [traceAll]
      refine hjoined.congr ?_ ?_
      · rintro other (hother | ⟨i, hi, hother⟩)
        · exact ⟨index, Nat.le_refl index, hother⟩
        · exact ⟨i, Nat.le_of_succ_le hi, hother⟩
      · rintro other ⟨i, hi, hother⟩ _ _
        rcases Nat.eq_or_lt_of_le hi with rfl | hlt
        · exact Or.inl hother
        · exact Or.inr ⟨i, hlt, hother⟩

end

/-! ## Whole trees -/

namespace Holds

/-- What `Holds` says about a tree it says about everything below. -/
theorem at? {root : Tree} {traced below : Traced} {address : Address}
    (h : Holds root traced.origin (traced.origin <+: ·) traced.children)
    (hbelow : traced.at? address = some below) :
    Holds root below.origin (below.origin <+: ·) below.children := by
  induction address generalizing traced with
  | nil =>
      cases hbelow
      exact h
  | cons index address ih =>
      obtain ⟨child, hchild, hbelow⟩ := Option.bind_eq_some_iff.1 hbelow
      cases h with
      | intro _ _ _ hchildren _ _ =>
          exact ih (hchildren child (List.mem_of_getElem? hchild)) hbelow

/-- A node came from below the place where its ancestors came from. -/
theorem origin_isPrefix {root : Tree} {traced below : Traced} {address : Address}
    (h : Holds root traced.origin (traced.origin <+: ·) traced.children)
    (hbelow : traced.at? address = some below) :
    traced.origin <+: below.origin ∧
      (address ≠ [] → traced.origin ≠ below.origin) := by
  induction address generalizing traced with
  | nil =>
      cases hbelow
      exact ⟨List.prefix_rfl, fun hne => absurd rfl hne⟩
  | cons index address ih =>
      obtain ⟨child, hchild, hbelow⟩ := Option.bind_eq_some_iff.1 hbelow
      cases h with
      | intro _ _ hnearest hchildren _ _ =>
          have hmem := List.mem_of_getElem? hchild
          obtain ⟨hinit, _⟩ := ih (hchildren child hmem) hbelow
          obtain ⟨hparent, hproper, _, _⟩ := hnearest child hmem
          refine ⟨hparent.trans hinit, ?_⟩
          intro _ heq
          rw [← heq] at hinit
          exact hproper (hparent.eq_of_length_le hinit.length_le)

/-- Nodes that come one after the other came from places that do. -/
theorem origin_lt {root : Tree} {traced first second : Traced}
    {address address' : Address}
    (h : Holds root traced.origin (traced.origin <+: ·) traced.children)
    (hfirst : traced.at? address = some first)
    (hsecond : traced.at? address' = some second) (hlt : address < address') :
    first.origin < second.origin := by
  induction address generalizing traced address' with
  | nil =>
      cases hfirst
      obtain ⟨hinit, hproper⟩ := h.origin_isPrefix hsecond
      refine lt_of_isPrefix hinit (hproper ?_)
      rintro rfl
      exact absurd hlt (List.lt_irrefl [])
  | cons index address ih =>
      cases address' with
      | nil => exact absurd hlt (List.not_lt_nil _)
      | cons index' address' =>
          obtain ⟨child, hchild, hfirst⟩ := Option.bind_eq_some_iff.1 hfirst
          obtain ⟨child', hchild', hsecond⟩ := Option.bind_eq_some_iff.1 hsecond
          cases h with
          | intro _ _ _ hchildren hordered _ =>
              have hbelow := hchildren child (List.mem_of_getElem? hchild)
              have hbelow' := hchildren child' (List.mem_of_getElem? hchild')
              rcases List.cons_lt_cons_iff.1 hlt with hindex | ⟨rfl, hinner⟩
              · obtain ⟨hi, rfl⟩ := List.getElem?_eq_some_iff.1 hchild
                obtain ⟨hj, rfl⟩ := List.getElem?_eq_some_iff.1 hchild'
                have hprecedes :=
                  List.pairwise_iff_getElem.1 hordered _ _ hi hj hindex
                exact hprecedes.lt_of_isPrefix
                  (hbelow.origin_isPrefix hfirst).1
                  (hbelow'.origin_isPrefix hsecond).1
              · rw [hchild] at hchild'
                cases hchild'
                exact ih hbelow hfirst hsecond hinner

/-- Every kept node of the concrete tree is somewhere in the traced one. -/
theorem exists_at? {root : Tree} {traced : Traced} (horigin : traced.origin = [])
    (h : Holds root traced.origin (traced.origin <+: ·) traced.children)
    {place : Address} (hkept : (root.keptAt? place).isSome) :
    ∃ address below, address ≠ [] ∧ traced.at? address = some below ∧
      below.origin = place := by
  -- From the nearest kept ancestor, which has a shorter address.
  induction hlength : place.length using Nat.strong_induction_on
    generalizing place with
  | _ length ih =>
      subst hlength
      have hplace : place ≠ [] := by
        rintro rfl
        cases hkept
      obtain ⟨above, habove⟩ := exists_nearestKept root hplace
      have hparent : ∃ address parent, traced.at? address = some parent ∧
          parent.origin = above := by
        rcases habove.kept with rfl | hsome
        · exact ⟨[], traced, rfl, horigin⟩
        · have hshorter : above.length < place.length := by
            refine Nat.lt_of_le_of_ne habove.isPrefix.length_le ?_
            intro heq
            exact habove.proper (habove.isPrefix.eq_of_length heq)
          obtain ⟨address, parent, _, hat, heq⟩ := ih _ hshorter hsome rfl
          exact ⟨address, parent, hat, heq⟩
      obtain ⟨address, parent, hat, rfl⟩ := hparent
      cases h.at? hat with
      | intro _ _ _ _ _ hcomplete =>
          obtain ⟨child, hmem, heq⟩ :=
            hcomplete place habove.isPrefix habove hkept
          obtain ⟨index, hindex⟩ := List.mem_iff_getElem?.1 hmem
          refine ⟨address ++ [index], child, List.concat_ne_nil _ _, ?_, heq⟩
          rw [Traced.at?_concat, hat]
          exact hindex

end Holds

/-- An analysed tree has exactly the kept nodes of a concrete tree; `origin`
tells where each of its nodes came from. -/
structure Keeps (tree : Tree) (root : Node) (origin : Address → Address) :
    Prop where
  /-- The root came from the root. -/
  atRoot : origin [] = []
  /-- Every other node is a kept node, as it was kept. -/
  kept : ∀ (address : Address) (node : Node), address ≠ [] →
    root.at? address = some node →
    ∃ kept, tree.keptAt? (origin address) = some kept ∧
      node = { kept with children := node.children }
  /-- Every kept node is there, and only once. -/
  once : ∀ place : Address, (tree.keptAt? place).isSome →
    ∃! address, address ≠ [] ∧ (root.at? address).isSome ∧
      origin address = place
  /-- Nodes come in the order of the places they came from. -/
  ordered : ∀ first second : Address, (root.at? first).isSome →
    (root.at? second).isSome → (first < second ↔ origin first < origin second)
  /-- The parent of a node is its nearest kept ancestor, or the root. -/
  parent : ∀ address : Address, address ≠ [] → (root.at? address).isSome →
    NearestKept tree (origin address) (origin address.dropLast)

/-- A traced tree that holds what is kept below the root keeps it. -/
theorem keeps_toNode {tree : Tree} {traced : Traced}
    (horigin : traced.origin = [])
    (h : Holds tree traced.origin (traced.origin <+: ·) traced.children) :
    Keeps tree traced.toNode
      fun address => (traced.at? address).elim [] Traced.origin := by
  have hsome : ∀ {address}, (traced.toNode.at? address).isSome →
      ∃ below, traced.at? address = some below := by
    intro address hat
    rw [Traced.at?_toNode, Option.isSome_map] at hat
    exact Option.isSome_iff_exists.1 hat
  have hordered : StrictMonoOn
      (fun address => (traced.at? address).elim [] Traced.origin)
      {address | (traced.toNode.at? address).isSome} := by
    intro first hfirst second hsecond hlt
    obtain ⟨below, hbelow⟩ := hsome hfirst
    obtain ⟨below', hbelow'⟩ := hsome hsecond
    simp only [hbelow, hbelow']
    exact h.origin_lt hbelow hbelow' hlt
  -- A node other than the root is a child of some node of the traced tree.
  have hchild : ∀ {address}, address ≠ [] → (traced.toNode.at? address).isSome →
      ∃ parent below, traced.at? address.dropLast = some parent ∧
        traced.at? address = some below ∧ below ∈ parent.children := by
    intro address hne hat
    obtain ⟨below, hbelow⟩ := hsome hat
    obtain ⟨before, index, rfl⟩ :=
      (List.eq_nil_or_concat' address).resolve_left hne
    have hstep := hbelow
    rw [Traced.at?_concat] at hstep
    obtain ⟨parent, hparent, hindex⟩ := Option.bind_eq_some_iff.1 hstep
    rw [List.dropLast_concat]
    exact ⟨parent, below, hparent, hbelow, List.mem_of_getElem? hindex⟩
  refine
    { atRoot := horigin
      kept := ?_
      once := ?_
      ordered := ?_
      parent := ?_ }
  · intro address node hne hnode
    obtain ⟨parent, below, hparent, hbelow, hmem⟩ :=
      hchild hne (by rw [hnode]; rfl)
    rw [Traced.at?_toNode, hbelow] at hnode
    cases hnode
    cases h.at? hparent with
    | intro _ hkept _ _ _ _ =>
        refine ⟨below.kept, ?_, ?_⟩
        · rw [hbelow]
          exact hkept below hmem
        · cases below
          rw [Traced.toNode]
  · intro place hplace
    obtain ⟨address, below, hne, hat, heq⟩ := h.exists_at? horigin hplace
    have hvalid : (traced.toNode.at? address).isSome := by
      rw [Traced.at?_toNode, hat]
      rfl
    have haddress : (traced.at? address).elim [] Traced.origin = place := by
      rw [hat]
      exact heq
    refine ⟨address, ⟨hne, hvalid, haddress⟩, ?_⟩
    rintro other ⟨_, hother, hsame⟩
    exact hordered.injOn hother hvalid (hsame.trans haddress.symm)
  · intro first second hfirst hsecond
    exact (hordered.lt_iff_lt hfirst hsecond).symm
  · intro address hne hat
    obtain ⟨parent, below, hparent, hbelow, hmem⟩ := hchild hne hat
    rw [hparent, hbelow]
    cases h.at? hparent with
    | intro _ _ hnearest _ _ _ => exact hnearest below hmem

/-- An analysed file has exactly the kept nodes of its concrete tree: as a list
they are what is kept of all nodes in pre-order, and as a tree each hangs below
its nearest kept ancestor. -/
theorem toUnit_keeps (path : String) (tree : Tree) :
    (tree.toUnit path).root.kind = .unit ∧
      (Node.preorderAll (tree.toUnit path).root.children).map Node.alone =
        (withParentsAll tree.construct? tree.children).filterMap
          (fun occurrence => retain? occurrence.1 occurrence.2) ∧
      ∃ origin, Keeps tree (tree.toUnit path).root origin := by
  refine ⟨rfl, preorderAll_lowerAll tree.construct? tree.children, ?_⟩
  let traced : Traced :=
    ⟨[], ⟨.unit, Files.fileStem path, tree.span, 0, []⟩,
      traceAll tree.construct? [] 0 tree.children⟩
  have hroot : traced.toNode = (tree.toUnit path).root := by
    rw [Traced.toNode, Traced.toNodes_eq_map, toNodes_traceAll, toUnit]
  have hat : tree.at? [] = some tree := rfl
  have hchildren := holds_traceAll hat (nearestKept_child (Or.inl rfl))
    tree.children 0 rfl
  rw [← hroot]
  refine ⟨_, keeps_toNode rfl (hchildren.congr ?_ ?_)⟩
  · intro other _
    exact List.nil_prefix
  · intro other hother _ hnearest
    obtain ⟨index, hindex⟩ := exists_child_isPrefix hother hnearest.proper
    exact ⟨index, Nat.zero_le index, hindex⟩

end Tree

end JavaSurvey.Java
