import JavaSurvey.Proofs.EnclosedCalls

/-!
# Rounds of a walk

A walk works in rounds. A round takes the node on top of a stack, keeps it if it
is asked for, and puts its children on the stack in reverse, so that the leftmost
one comes out first. Nothing in a round looks at the tree as a whole, and the
stack may grow while it goes on.

What is still to come is always the pre-order of what is on the stack, read from
the top (`WalkStage.Reaches`). Each round uses up exactly the first node of it. So a
walk ends after as many rounds as the tree has nodes, and round by round it
visits the pre-order. This holds for whatever has children and a pre-order: for
nodes, and for nodes with their places. A walk over places visits the same nodes
as the walk over nodes, and no place twice.

## Main results

* `WalkStage.Reaches.next`: what one round does to what is still to come.
* `WalkStage.reaches_after?`: where a walk stands after any number of rounds.
* `WalkStage.after?_map`: a walk over places is a walk over nodes.
* `selects_in_rounds`: selections, round by round.
-/

namespace JavaSurvey.Syntax

/-! ## Stages and rounds -/

/-- Where a walk stands: what is still to be visited, the next one last, and what
was kept so far. -/
structure WalkStage (α : Type) where
  stack : List α
  kept : List α

namespace WalkStage

variable {α β : Type}

/-- A walk before its first round. -/
def start (root : α) : WalkStage α :=
  ⟨[root], []⟩

/-- What the next round visits. -/
def top? (stage : WalkStage α) : Option α :=
  stage.stack.getLast?

/-- One round; there is none when the stack is empty. -/
def round? (children : α → List α) (keep : α → Bool) (stage : WalkStage α) :
    Option (WalkStage α) :=
  stage.top?.map fun top =>
    { stack := stage.stack.dropLast ++ (children top).reverse
      kept := if keep top then stage.kept ++ [top] else stage.kept }

/-- The stage after a number of rounds, if there are as many. -/
def after? (children : α → List α) (keep : α → Bool) (stage : WalkStage α) :
    Nat → Option (WalkStage α)
  | 0 => some stage
  | rounds + 1 => (stage.after? children keep rounds).bind (round? children keep)

/-- A stage seen through a map. -/
def map (f : α → β) (stage : WalkStage α) : WalkStage β :=
  ⟨stage.stack.map f, stage.kept.map f⟩

/-! ## What is still to come -/

/-- A listing is a pre-order if it lists everything in front of what it lists for
the children. -/
def IsPreorder (children : α → List α) (listing : α → List α) : Prop :=
  ∀ node, listing node = node :: (children node).flatMap listing

/-- A stage at which the first `visited` of some nodes were visited, and the
others are still to come. -/
structure Reaches (listing : α → List α) (keep : α → Bool) (nodes : List α)
    (visited : Nat) (stage : WalkStage α) : Prop where
  pending : stage.stack.reverse.flatMap listing = nodes.drop visited
  kept : stage.kept = (nodes.take visited).filter keep

section Rounds

variable {children listing : α → List α} {keep : α → Bool} {nodes : List α}
  {visited : Nat} {stage : WalkStage α}

theorem reaches_start (listing : α → List α) (keep : α → Bool) (root : α) :
    Reaches listing keep (listing root) 0 (start root) where
  pending := by simp [start]
  kept := rfl

/-- The next round visits what comes first of all that is still to come. -/
theorem Reaches.top?_eq (hlisting : IsPreorder children listing)
    (h : Reaches listing keep nodes visited stage) :
    stage.top? = nodes[visited]? := by
  rw [← List.head?_drop, ← h.pending, top?, ← List.head?_reverse]
  cases stage.stack.reverse with
  | nil => rfl
  | cons top rest => rw [List.flatMap_cons, hlisting top, List.cons_append]; rfl

/-- A walk stops only when nothing is still to come. -/
theorem Reaches.round?_eq_none (hlisting : IsPreorder children listing)
    (h : Reaches listing keep nodes visited stage) (hend : nodes.length ≤ visited) :
    stage.round? children keep = none := by
  rw [WalkStage.round?, h.top?_eq hlisting, List.getElem?_eq_none hend, Option.map_none]

/-- A round uses up the first node that is still to come. -/
theorem Reaches.next (hlisting : IsPreorder children listing)
    (h : Reaches listing keep nodes visited stage) {top : α}
    (htop : nodes[visited]? = some top) :
    ∃ next, stage.round? children keep = some next ∧
      Reaches listing keep nodes (visited + 1) next := by
  have hstage : stage.top? = some top := (h.top?_eq hlisting).trans htop
  have hstack : stage.stack = stage.stack.dropLast ++ [top] :=
    (List.dropLast_append_getLast? top hstage).symm
  -- The top is the last on the stack, so its children come first when the stack is
  -- read from the top.
  have hpending : nodes.drop visited =
      top :: ((children top ++ stage.stack.dropLast.reverse).flatMap listing) := by
    rw [← h.pending, hstack, List.reverse_append, List.reverse_singleton,
      List.singleton_append, List.flatMap_cons, hlisting top, List.cons_append,
      ← List.flatMap_append, List.dropLast_concat]
  refine ⟨_, by rw [WalkStage.round?, hstage, Option.map_some], ?_, ?_⟩
  · rw [List.reverse_append, List.reverse_reverse, ← List.tail_drop, hpending,
      List.tail_cons]
  · rw [List.take_add_one, htop, Option.toList_some, List.filter_append, ← h.kept]
    cases hkeep : keep top with
    | true => rw [if_pos rfl, List.filter_cons_of_pos hkeep, List.filter_nil]
    | false =>
        rw [if_neg Bool.false_ne_true,
          List.filter_cons_of_neg (by rw [hkeep]; exact Bool.false_ne_true),
          List.filter_nil, List.append_nil]

/-- As long as something is still to come, a walk goes on. -/
theorem reaches_after? (hlisting : IsPreorder children listing) (keep : α → Bool)
    (root : α) {rounds : Nat} (hrounds : rounds ≤ (listing root).length) :
    ∃ stage, (start root).after? children keep rounds = some stage ∧
      Reaches listing keep (listing root) rounds stage := by
  induction rounds with
  | zero => exact ⟨start root, rfl, reaches_start listing keep root⟩
  | succ rounds ih =>
      obtain ⟨stage, hstage, hreaches⟩ := ih (Nat.le_of_succ_le hrounds)
      obtain ⟨next, hnext, hnextReaches⟩ :=
        hreaches.next hlisting (List.getElem?_eq_getElem hrounds)
      exact ⟨next, by rw [after?, hstage, Option.bind_some, hnext], hnextReaches⟩

/-- Once nothing is left, there are no more rounds. -/
theorem after?_eq_none (hlisting : IsPreorder children listing) (keep : α → Bool)
    (root : α) {rounds : Nat} (hrounds : (listing root).length < rounds) :
    (start root).after? children keep rounds = none := by
  induction hrounds with
  | refl =>
      obtain ⟨stage, hstage, hreaches⟩ :=
        reaches_after? hlisting keep root (Nat.le_refl _)
      rw [after?, hstage, Option.bind_some,
        hreaches.round?_eq_none hlisting (Nat.le_refl _)]
  | step _ ih => rw [after?, ih, Option.bind_none]

/-- There are as many rounds as there are nodes. -/
theorem isSome_after?_iff (hlisting : IsPreorder children listing) (keep : α → Bool)
    (root : α) (rounds : Nat) :
    ((start root).after? children keep rounds).isSome = true ↔
      rounds ≤ (listing root).length := by
  by_cases hrounds : rounds ≤ (listing root).length
  · obtain ⟨stage, hstage, -⟩ := reaches_after? hlisting keep root hrounds
    simp [hstage, hrounds]
  · simp [after?_eq_none hlisting keep root (Nat.lt_of_not_le hrounds), hrounds]

/-- The rounds visit the pre-order, one node each. -/
theorem visited_eq (hlisting : IsPreorder children listing) (keep : α → Bool)
    (root : α) (round : Nat) :
    ((start root).after? children keep round).bind top? = (listing root)[round]? := by
  by_cases hround : round ≤ (listing root).length
  · obtain ⟨stage, hstage, hreaches⟩ := reaches_after? hlisting keep root hround
    rw [hstage, Option.bind_some, hreaches.top?_eq hlisting]
  · have hmore := Nat.lt_of_not_le hround
    rw [after?_eq_none hlisting keep root hmore, Option.bind_none,
      List.getElem?_eq_none hmore.le]

/-- A walk ends with an empty stack and has kept all that was asked for. -/
theorem after?_length (hlisting : IsPreorder children listing) (keep : α → Bool)
    (root : α) :
    (start root).after? children keep (listing root).length =
      some ⟨[], (listing root).filter keep⟩ := by
  obtain ⟨⟨stack, kept⟩, hstage, hreaches⟩ :=
    reaches_after? hlisting keep root (Nat.le_refl _)
  have hempty : stack = [] := by
    have htop := hreaches.top?_eq hlisting
    rw [List.getElem?_eq_none (Nat.le_refl _)] at htop
    exact List.getLast?_eq_none_iff.1 htop
  have hkept : kept = (listing root).filter keep := by
    have hkept := hreaches.kept
    rwa [List.take_length] at hkept
  rw [hstage, hempty, hkept]

end Rounds

/-! ## Walks seen through a map -/

section Map

variable {children : α → List α} {children' : β → List β} {f : α → β}

theorem round?_map (h : ∀ node, children' (f node) = (children node).map f)
    (keep : β → Bool) (stage : WalkStage α) :
    (stage.map f).round? children' keep =
      (stage.round? children (keep ∘ f)).map (map f) := by
  rw [round?, round?, top?, top?, map, List.getLast?_map, Option.map_map,
    Option.map_map]
  congr 1
  funext top
  simp only [Function.comp, map, h, List.map_append, List.map_reverse,
    List.map_dropLast]
  split <;> simp

theorem after?_map (h : ∀ node, children' (f node) = (children node).map f)
    (keep : β → Bool) (stage : WalkStage α) (rounds : Nat) :
    (stage.map f).after? children' keep rounds =
      (stage.after? children (keep ∘ f) rounds).map (map f) := by
  induction rounds with
  | zero => rfl
  | succ rounds ih =>
      rw [after?, after?, ih, Option.bind_map, Option.map_bind]
      congr 1
      funext stage
      exact round?_map h keep stage

end Map

end WalkStage

/-! ## Nodes and places -/

theorem Node.preorderAll_eq_flatMap (nodes : List Node) :
    Node.preorderAll nodes = nodes.flatMap Node.preorder := by
  induction nodes with
  | nil => rfl
  | cons node rest ih => rw [Node.preorderAll, ih, List.flatMap_cons]

theorem Node.isPreorder_preorder : WalkStage.IsPreorder Node.children Node.preorder := by
  intro node
  rw [Node.preorder_eq, Node.preorderAll_eq_flatMap]

/-- The children of a node, each at its place. -/
def Occurrence.children (occurrence : Occurrence) : List Occurrence :=
  occurrence.node.children.mapIdx fun index child =>
    ⟨occurrence.place ++ [index], child⟩

/-- Everything at or below a place, in pre-order. -/
def Occurrence.listing (occurrence : Occurrence) : List Occurrence :=
  occurrence.node.occurrences.map (Occurrence.under occurrence.place)

theorem Occurrence.map_node_children (occurrence : Occurrence) :
    occurrence.children.map Occurrence.node = occurrence.node.children := by
  refine List.ext_getElem? fun index => ?_
  rw [Occurrence.children, List.getElem?_map, List.getElem?_mapIdx, Option.map_map]
  exact Option.map_id_apply

/-- What stands in the children of a node stands at or below their places. -/
theorem Occurrence.map_under_occurrencesOfAll (place : Address) (index : Nat)
    (nodes : List Node) :
    (Node.occurrencesOfAll index nodes).map (Occurrence.under place) =
      (nodes.mapIdx fun i child =>
        (⟨place ++ [index + i], child⟩ : Occurrence)).flatMap Occurrence.listing := by
  induction nodes generalizing index with
  | nil => rfl
  | cons node rest ih =>
      have hfirst : (node.occurrences.map (Occurrence.under [index])).map
          (Occurrence.under place) =
            Occurrence.listing ⟨place ++ [index + 0], node⟩ := by
        rw [List.map_map, Occurrence.listing]
        refine List.map_congr_left fun occurrence _ => ?_
        simp [Occurrence.under]
      have hrest := ih (index + 1)
      simp only [Nat.add_right_comm index 1, Nat.add_assoc] at hrest
      rw [Node.occurrencesOfAll, List.map_append, hfirst, hrest, List.mapIdx_cons,
        List.flatMap_cons]

theorem Occurrence.isPreorder_listing :
    WalkStage.IsPreorder Occurrence.children Occurrence.listing := by
  intro occurrence
  have hbelow := Occurrence.map_under_occurrencesOfAll occurrence.place 0
    occurrence.node.children
  simp only [Nat.zero_add] at hbelow
  rw [Occurrence.listing, Node.occurrences_eq, List.map_cons, hbelow,
    Occurrence.children]
  congr 1
  rw [Occurrence.under, List.append_nil]

theorem Occurrence.listing_root (root : Node) :
    Occurrence.listing ⟨[], root⟩ = root.occurrences :=
  List.map_id _

/-- The stage of a selection after a number of rounds. -/
def Node.stage? (root : Node) (keep : Node → Bool) (rounds : Nat) :
    Option (WalkStage Node) :=
  (WalkStage.start root).after? Node.children keep rounds

/-- The same stage, with the place of every node. -/
def Node.placedStage? (root : Node) (keep : Node → Bool) (rounds : Nat) :
    Option (WalkStage Occurrence) :=
  (WalkStage.start ⟨[], root⟩).after? Occurrence.children (keep ∘ Occurrence.node) rounds

theorem Node.stage?_eq_map (root : Node) (keep : Node → Bool) (rounds : Nat) :
    root.stage? keep rounds =
      (root.placedStage? keep rounds).map (WalkStage.map Occurrence.node) := by
  have hchildren : ∀ occurrence : Occurrence,
      occurrence.node.children = occurrence.children.map Occurrence.node :=
    fun occurrence => occurrence.map_node_children.symm
  exact WalkStage.after?_map hchildren keep (WalkStage.start ⟨[], root⟩) rounds

/-- What the round with a given number visits. -/
def Node.visit? (root : Node) (keep : Node → Bool) (round : Nat) : Option Occurrence :=
  (root.placedStage? keep round).bind WalkStage.top?

theorem Node.visit?_eq (root : Node) (keep : Node → Bool) (round : Nat) :
    root.visit? keep round = root.occurrences[round]? := by
  rw [Node.visit?, Node.placedStage?, WalkStage.visited_eq Occurrence.isPreorder_listing,
    Occurrence.listing_root]

/-- Equal places come up in the same round. -/
theorem Node.eq_of_place_eq {root : Node} {first second : Nat} {one other : Occurrence}
    (hfirst : root.occurrences[first]? = some one)
    (hsecond : root.occurrences[second]? = some other)
    (h : one.place = other.place) : first = second := by
  have hplaces : (root.occurrences.map Occurrence.place).Nodup :=
    List.pairwise_map.2 ((Node.pairwise_occurrences root).imp fun hlt => ne_of_lt hlt)
  have hlength : first < (root.occurrences.map Occurrence.place).length := by
    rw [List.length_map]
    exact (List.getElem?_eq_some_iff.1 hfirst).1
  refine (List.getElem?_inj hlength hplaces).1 ?_
  rw [List.getElem?_map, List.getElem?_map, hfirst, hsecond, Option.map_some,
    Option.map_some, h]

/-- A node stands at a place exactly if one round visits it there, and then no
other round does. -/
theorem Node.at?_iff_existsUnique_visit? (root : Node) (keep : Node → Bool)
    (place : Address) (node : Node) :
    root.at? place = some node ↔
      ∃! round, root.visit? keep round = some ⟨place, node⟩ := by
  simp only [Node.visit?_eq]
  rw [← Node.mem_occurrences, List.mem_iff_getElem?]
  constructor
  · rintro ⟨round, hround⟩
    exact ⟨round, hround, fun other hother => Node.eq_of_place_eq hother hround rfl⟩
  · rintro ⟨round, hround, -⟩
    exact ⟨round, hround⟩

/-! ## Selections -/

/-- At every stage of a selection, walking what is on the stack gives the rest of
it. -/
theorem Node.kept_append_walk {root : Node} {keep : Node → Bool} {rounds : Nat}
    {stage : WalkStage Node} (h : root.stage? keep rounds = some stage) :
    stage.kept ++ walk keep stage.stack.reverse = select root keep := by
  have hrounds : rounds ≤ root.preorder.length :=
    (WalkStage.isSome_after?_iff Node.isPreorder_preorder keep root rounds).1
      (Option.isSome_of_eq_some h)
  obtain ⟨reached, hreached, hreaches⟩ :=
    WalkStage.reaches_after? Node.isPreorder_preorder keep root hrounds
  cases h.symm.trans hreached
  rw [walk_eq_filter, Node.preorderAll_eq_flatMap, hreaches.pending, hreaches.kept,
    ← List.filter_append, List.take_append_drop, select_eq_filter]

/-- Views are taken of all nodes that a selection by kind selects. -/
theorem map_node_selectKind_eq_select (root : Node) (kind : NodeKind) :
    (selectKind root kind).map View.node =
      select root fun node => node.kind == kind := by
  rw [map_node_selectKind, select_eq_filter, Node.ofKind]

/-- A selection works in rounds. There is one round for each node, and the walk
ends with what the recursion over the tree lists; each place is visited in one
round only. A selection by kind gives a view of every node it selects. -/
theorem selects_in_rounds :
    (∀ (root : Node) (keep : Node → Bool),
      (∀ rounds, (root.stage? keep rounds).isSome = true ↔
        rounds ≤ root.preorder.length) ∧
      root.stage? keep root.preorder.length = some ⟨[], select root keep⟩ ∧
      select root keep = root.preorder.filter keep ∧
      (∀ rounds stage, root.stage? keep rounds = some stage →
        stage.kept ++ walk keep stage.stack.reverse = select root keep) ∧
      (∀ round, (root.stage? keep round).bind WalkStage.top? = root.preorder[round]?) ∧
      (∀ rounds, root.stage? keep rounds =
        (root.placedStage? keep rounds).map (WalkStage.map Occurrence.node)) ∧
      ∀ place node, root.at? place = some node ↔
        ∃! round, root.visit? keep round = some ⟨place, node⟩) ∧
    (∀ unit : SourceUnit,
      unit.types.map View.node = select unit.root (fun node => node.kind == .type) ∧
      unit.declarations.map View.node =
        select unit.root fun node => node.kind == .method) ∧
    ∀ declaration : MethodDeclaration,
      declaration.invocations.map View.node =
        select declaration.node fun node => node.kind == .invocation := by
  refine ⟨fun root keep => ⟨?_, ?_, select_eq_filter root keep, ?_, ?_,
      root.stage?_eq_map keep, root.at?_iff_existsUnique_visit? keep⟩,
    fun unit => ⟨?_, ?_⟩, fun declaration => ?_⟩
  · exact WalkStage.isSome_after?_iff Node.isPreorder_preorder keep root
  · rw [select_eq_filter]
    exact WalkStage.after?_length Node.isPreorder_preorder keep root
  · intro rounds stage hstage
    exact Node.kept_append_walk hstage
  · exact WalkStage.visited_eq Node.isPreorder_preorder keep root
  · exact map_node_selectKind_eq_select unit.root .type
  · exact map_node_selectKind_eq_select unit.root .method
  · exact map_node_selectKind_eq_select declaration.node .invocation

/-- Two equal methods are told apart by their places: after two rounds the call
of the first is on top of the second, and the call of the second is visited once
more although it is an equal node. -/
theorem selects_in_rounds_twins :
    let call : Node := ⟨.invocation, "run", ⟨2, 2⟩, 0, []⟩
    let method : Node := ⟨.method, "main", ⟨2, 2⟩, 0, [call]⟩
    let root : Node := ⟨.type, "Main", ⟨1, 3⟩, 0, [method, method]⟩
    let isCall := fun node : Node => node.kind == .invocation
    root.stage? isCall 2 = some ⟨[method, call], []⟩ ∧
      walk isCall [call, method] = select root isCall ∧
      (∃! round, root.visit? isCall round = some ⟨[0, 0], call⟩) ∧
      ∃! round, root.visit? isCall round = some ⟨[1, 0], call⟩ := by
  intro call method root isCall
  have hstage : root.stage? isCall 2 = some ⟨[method, call], []⟩ := rfl
  obtain ⟨-, -, -, hwalk, -, -, hvisits⟩ := selects_in_rounds.1 root isCall
  exact ⟨hstage, hwalk 2 _ hstage, (hvisits [0, 0] call).1 rfl,
    (hvisits [1, 0] call).1 rfl⟩

end JavaSurvey.Syntax
