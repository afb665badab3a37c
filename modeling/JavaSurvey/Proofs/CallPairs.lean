import JavaSurvey.Proofs.NamedTrees
import JavaSurvey.Proofs.TallyOfFiles

/-!
# The declarations and call pairs of a concrete tree

Lowering keeps nodes and hangs them below their nearest kept ancestor, and call
pairs are then found by two walks over what is left. Put together, both walks
visit the concrete tree: the declarations of a file are the methods and
constructors of its concrete tree that are written out, and the calls of each
are the calls below it there. So no call in a method is lost, however deep it
stands and whatever is forgotten on the way.

One form of declaration is not kept. The compact constructor of a record is
forgotten, and with it the pairs of its calls; `compact_constructor_unpaired`
has an example.

## Main results

* `Tree.filter_kind_preorderAll_lowered`: the nodes of a lowered forest of one kind.
* `Tree.pairNames_toUnit`: the call pairs of a file from its concrete tree.
* `Tree.coversDeclarations_iff`: when all declarations are taken into account.
* `Tree.calls_of_declarations`: all that is counted and paired.
-/

namespace JavaSurvey.Java

open Syntax (Node NodeKind SourceUnit View MethodDeclaration MethodInvocation)

namespace Tree

/-! ## All nodes of a tree -/

mutual

theorem map_snd_withParents (parent : Option Construct) : (tree : Tree) →
    (withParents parent tree).map Prod.snd = tree.nodes
  | .leaf _ _ => rfl
  | .node _ construct _ children => by
      rw [withParents, List.map_cons, map_snd_withParentsAll (some construct) children,
        nodes]

theorem map_snd_withParentsAll (parent : Option Construct) : (trees : List Tree) →
    (withParentsAll parent trees).map Prod.snd = nodesOfAll trees
  | [] => rfl
  | tree :: rest => by
      rw [withParentsAll, List.map_append, map_snd_withParents parent tree,
        map_snd_withParentsAll parent rest, nodesOfAll]

end

/-! ## Declarations and calls -/

/-- Whether a node is a method or a constructor that is written out. -/
def isDeclaration (tree : Tree) : Bool :=
  tree.construct? == some .methodDeclaration ||
    tree.construct? == some .constructorDeclaration

/-- Whether a node is a call. -/
def isCall (tree : Tree) : Bool :=
  tree.construct? == some .methodInvocation

/-- How the nodes of one kind arise: which trees become such nodes, and with how
many parameters. -/
structure Arises (kind : NodeKind) (accepts : Tree → Bool) (parameters : Tree → Nat) :
    Prop where
  retained : ∀ parent tree, accepts tree = true → retain? parent tree =
    tree.nameText?.map fun name => ⟨kind, name, tree.span, parameters tree, []⟩
  accepted : ∀ parent tree kept, retain? parent tree = some kept →
    kept.kind = kind → accepts tree = true

/-- Only declarations become methods, and only calls become invocations. -/
theorem accepted_of_retain? {parent : Option Construct} {tree : Tree} {kept : Node}
    (h : retain? parent tree = some kept) :
    (kept.kind = .method → tree.isDeclaration = true) ∧
      (kept.kind = .invocation → tree.isCall = true) := by
  unfold retain? at h
  dsimp only at h
  split at h
  case h_13 =>
    split at h <;> cases h
    constructor <;> (intro hkind; cases hkind)
  -- What is kept without a name is neither of the two.
  any_goals first
    | (cases h; constructor <;> (intro hkind; cases hkind))
    | cases h
  all_goals
    next hconstruct =>
      obtain ⟨name, _, rfl⟩ := Option.map_eq_some_iff.1 h
      simp [isDeclaration, isCall, hconstruct]

/-- Methods come from the methods and constructors that are written out. -/
theorem arises_method : Arises .method isDeclaration parameterCount where
  retained := by
    intro parent tree h
    rw [isDeclaration, Bool.or_eq_true, beq_iff_eq, beq_iff_eq] at h
    rcases h with h | h <;> rw [retain?, h]
  accepted := fun _ _ _ h => (accepted_of_retain? h).1

/-- Invocations come from calls. -/
theorem arises_invocation : Arises .invocation isCall fun _ => 0 where
  retained := by
    intro parent tree h
    rw [isCall, beq_iff_eq] at h
    rw [retain?, h]
  accepted := fun _ _ _ h => (accepted_of_retain? h).2

/-- What a node of one kind becomes, if it has a name. -/
theorem filter_keptNode? {kind : NodeKind} {accepts : Tree → Bool}
    {parameters : Tree → Nat} (harises : Arises kind accepts parameters)
    (parent : Option Construct) {tree : Tree}
    (hnamed : accepts tree = true → tree.nameText?.isSome = true) :
    (keptNode? (parent, tree)).filter (fun node => node.kind == kind) =
      if accepts tree then
        some ⟨kind, tree.name, tree.span, parameters tree, tree.lowered⟩
      else none := by
  cases haccepts : accepts tree with
  | true =>
      obtain ⟨text, htext⟩ := Option.isSome_iff_exists.1 (hnamed haccepts)
      rw [keptNode?, harises.retained parent tree haccepts, name, htext]
      simp
  | false =>
      rw [if_neg Bool.false_ne_true, Option.filter_eq_none_iff]
      intro node hnode hkind
      obtain ⟨kept, hkept, rfl⟩ := Option.map_eq_some_iff.1 hnode
      have := harises.accepted parent tree kept hkept (eq_of_beq hkind)
      rw [haccepts] at this
      cases this

theorem filter_kind_preorderAll_lowered {kind : NodeKind} {accepts : Tree → Bool}
    {parameters : Tree → Nat} (harises : Arises kind accepts parameters) {tree : Tree}
    (hnamed : ∀ node ∈ tree.descendants, accepts node = true → node.nameText?.isSome) :
    (Node.preorderAll tree.lowered).filter (fun node => node.kind == kind) =
      (tree.descendants.filter accepts).map fun node =>
        ⟨kind, node.name, node.span, parameters node, node.lowered⟩ := by
  rw [descendants, ← map_snd_withParentsAll tree.construct?] at hnamed ⊢
  rw [lowered, preorderAll_lowerAll_eq, List.filter_filterMap,
    ← List.filterMap_eq_map', List.filterMap_filter, List.filterMap_map]
  refine List.filterMap_congr fun occurrence hoccurrence => ?_
  exact filter_keptNode? harises occurrence.1
    (hnamed occurrence.2 (List.mem_map_of_mem hoccurrence))

/-! ## Declarations and calls of a named tree -/

theorem nameText?_isSome_of_named {tree : Tree} (h : tree.Named) {accepts : Tree → Bool}
    (haccepts : ∀ node, accepts node = true → node.construct?.any goesByName = true) :
    ∀ node ∈ tree.descendants, accepts node = true → node.nameText?.isSome = true := by
  intro node hnode haccept
  exact isSome_nameText? (h node hnode (haccepts node haccept))

theorem goesByName_of_isDeclaration {tree : Tree} (h : tree.isDeclaration = true) :
    tree.construct?.any goesByName = true := by
  rw [isDeclaration, Bool.or_eq_true, beq_iff_eq, beq_iff_eq] at h
  rcases h with h | h <;> rw [h] <;> rfl

theorem goesByName_of_isCall {tree : Tree} (h : tree.isCall = true) :
    tree.construct?.any goesByName = true := by
  rw [isCall, beq_iff_eq] at h
  rw [h]
  rfl

/-- The declarations below a tree, in pre-order. -/
def declarations (tree : Tree) : List Tree :=
  tree.descendants.filter isDeclaration

/-- Whether a node is a constructor in the compact form that records have. -/
def isCompactConstructor (tree : Tree) : Bool :=
  tree.construct? == some .compactConstructor

theorem isDeclaration_eq_false {tree : Tree} (h : tree.isCompactConstructor = true) :
    tree.isDeclaration = false := by
  rw [isCompactConstructor, beq_iff_eq] at h
  rw [isDeclaration, h]
  rfl

/-- The declarations below a tree in either form, in pre-order. -/
def declarationsOfAnyForm (tree : Tree) : List Tree :=
  tree.descendants.filter fun node => node.isDeclaration || node.isCompactConstructor

/-- The calls below a tree, in pre-order. -/
def calls (tree : Tree) : List Tree :=
  tree.descendants.filter isCall

theorem ofKind_method_toUnit (path : String) {tree : Tree} (h : tree.Named) :
    (tree.toUnit path).root.ofKind .method = tree.declarations.map fun node =>
      ⟨.method, node.name, node.span, node.parameterCount, node.lowered⟩ := by
  rw [Node.ofKind, Node.preorder_eq, List.filter_cons_of_neg
    (by exact Bool.false_ne_true)]
  exact filter_kind_preorderAll_lowered arises_method
    (nameText?_isSome_of_named h fun _ => goesByName_of_isDeclaration)

/-- The calls inside a declaration are the calls below it. -/
theorem ofKind_invocation {tree : Tree} (h : tree.Named) (node : Node)
    (hkind : node.kind = .method) (hchildren : node.children = tree.lowered) :
    (node.ofKind .invocation).map (·.name) = tree.calls.map name := by
  rw [Node.ofKind, Node.preorder_eq, hchildren,
    List.filter_cons_of_neg (by rw [hkind]; exact Bool.false_ne_true),
    filter_kind_preorderAll_lowered arises_invocation
      (nameText?_isSome_of_named h fun _ => goesByName_of_isCall), List.map_map]
  rfl

/-- The call pairs of a file, by name. -/
def pairNames (unit : SourceUnit) : List (String × String) :=
  unit.callPairs.map fun pair => (pair.1.name, pair.2.name)

theorem pairNames_eq (unit : SourceUnit) :
    pairNames unit = (unit.root.ofKind .method).flatMap fun method =>
      (method.ofKind .invocation).map fun call => (method.name, call.name) := by
  rw [pairNames, SourceUnit.callPairs, ← Metrics.map_node_declarations,
    List.map_flatMap, List.flatMap_map]
  congr 1
  funext declaration
  rw [← Syntax.map_node_selectKind, List.map_map, List.map_map]
  rfl

/-- The call pairs of a file come from the methods and constructors of its tree
that are written out. -/
theorem pairNames_toUnit (path : String) {tree : Tree} (h : tree.Named) :
    pairNames (tree.toUnit path) = tree.declarations.flatMap fun declaration =>
      declaration.calls.map fun call => (declaration.name, call.name) := by
  rw [pairNames_eq, ofKind_method_toUnit path h, List.flatMap_map]
  refine List.flatMap_congr fun declaration hdeclaration => ?_
  have hcalls := ofKind_invocation (h.descendant (List.mem_of_mem_filter hdeclaration))
    ⟨.method, declaration.name, declaration.span, declaration.parameterCount,
      declaration.lowered⟩ rfl rfl
  have hpairs := congrArg (List.map fun call => (declaration.name, call)) hcalls
  rw [List.map_map, List.map_map] at hpairs
  exact hpairs

/-- A child's nodes stand below its parent. -/
theorem nodes_subset_descendants {tree child : Tree} (h : child ∈ tree.children) :
    child.nodes ⊆ tree.descendants := by
  rw [descendants]
  generalize tree.children = trees at h
  induction trees with
  | nil => cases h
  | cons first rest ih =>
      rw [nodesOfAll]
      rcases List.mem_cons.1 h with rfl | h
      · exact List.subset_append_left _ _
      · exact List.Subset.trans (ih h) (List.subset_append_right _ _)

theorem pair_mem_pairNames (path : String) {tree declaration body call : Tree}
    (h : tree.Named) (hdeclaration : declaration ∈ tree.declarations)
    (hbody : declaration.childIn? .body = some body) (hcall : call ∈ body.nodes)
    (hisCall : call.isCall = true) :
    (declaration.name, call.name) ∈ pairNames (tree.toUnit path) := by
  rw [pairNames_toUnit path h]
  refine List.mem_flatMap.2 ⟨declaration, hdeclaration, List.mem_map.2 ⟨call, ?_, rfl⟩⟩
  have hchild := List.mem_of_find?_eq_some hbody
  exact List.mem_filter.2 ⟨nodes_subset_descendants hchild hcall, hisCall⟩

theorem methods_accumulate (tally : Metrics.Tally) (unit : SourceUnit) :
    (tally.accumulate unit).totals.methods =
      tally.totals.methods + unit.declarations.length := by
  rw [Metrics.Tally.accumulate]
  dsimp only
  rw [Metrics.foldl_addType, Metrics.foldl_addMethod]

theorem names_declarations (path : String) {tree : Tree} (h : tree.Named) :
    (tree.toUnit path).declarations.map View.name = tree.declarations.map name := by
  have hnodes := congrArg (List.map (·.name))
    ((Metrics.map_node_declarations (tree.toUnit path)).trans
      (ofKind_method_toUnit path h))
  rw [List.map_map, List.map_map] at hnodes
  exact hnodes

/-! ## Declarations in either form -/

/-- Declarations in either form are taken into account: each is counted once, and
every call in the body of one is paired with it. -/
structure CoversDeclarations (path : String) (tree : Tree) : Prop where
  counted : ∀ tally : Metrics.Tally,
    (tally.accumulate (tree.toUnit path)).totals.methods =
      tally.totals.methods + tree.declarationsOfAnyForm.length
  paired : ∀ declaration ∈ tree.declarationsOfAnyForm, ∀ body,
    declaration.childIn? .body = some body → ∀ call ∈ body.nodes,
    call.isCall = true → (declaration.name, call.name) ∈ pairNames (tree.toUnit path)

theorem methods_toUnit (path : String) {tree : Tree} (h : tree.Named)
    (tally : Metrics.Tally) :
    (tally.accumulate (tree.toUnit path)).totals.methods =
      tally.totals.methods + tree.declarations.length := by
  rw [methods_accumulate, ← List.length_map (f := View.name), names_declarations path h,
    List.length_map]

/-- Declarations in either form are no more than those that are written out exactly
if none is compact. -/
theorem length_declarationsOfAnyForm_eq_iff (tree : Tree) :
    tree.declarationsOfAnyForm.length = tree.declarations.length ↔
      ∀ node ∈ tree.descendants, node.isCompactConstructor = false := by
  constructor
  · intro hlength node hnode
    have hsublist : tree.declarations.Sublist tree.declarationsOfAnyForm :=
      List.monotone_filter_right _ fun other hother => by simp [hother]
    have hsame := hsublist.eq_of_length hlength.symm
    by_contra hcompact
    rw [Bool.not_eq_false] at hcompact
    have hmem : node ∈ tree.declarationsOfAnyForm :=
      List.mem_filter.2 ⟨hnode, by simp [hcompact]⟩
    rw [← hsame] at hmem
    have hdeclaration := (List.mem_filter.1 hmem).2
    rw [isDeclaration_eq_false hcompact] at hdeclaration
    cases hdeclaration
  · intro hcompact
    refine congrArg List.length (List.filter_congr fun node hnode => ?_)
    rw [hcompact node hnode, Bool.or_false]

theorem coversDeclarations_iff (path : String) {tree : Tree} (h : tree.Named) :
    CoversDeclarations path tree ↔
      ∀ node ∈ tree.descendants, node.isCompactConstructor = false := by
  rw [← length_declarationsOfAnyForm_eq_iff]
  constructor
  · intro hcovers
    have hcounted := hcovers.counted {}
    rw [methods_toUnit path h] at hcounted
    omega
  · intro hlength
    have hcompact := (length_declarationsOfAnyForm_eq_iff tree).1 hlength
    refine ⟨fun tally => ?_, fun declaration hdeclaration body hbody call hcall => ?_⟩
    · rw [methods_toUnit path h, hlength]
    · obtain ⟨hnode, hform⟩ := List.mem_filter.1 hdeclaration
      rw [hcompact declaration hnode, Bool.or_false] at hform
      exact pair_mem_pairNames path h (List.mem_filter.2 ⟨hnode, hform⟩) hbody hcall

/-! ## Main result -/

/-- A method or constructor that is written out is counted once, and every call in
it is paired with it. These are all the call pairs there are: a constructor in the
compact form is not counted, and what it calls is paired only with declarations
around its record. So all declarations are taken into account exactly if none is
compact. Source text that is read always has the names this needs. -/
theorem calls_of_declarations (path : String) :
    (∀ text unit, parse path text = .ok unit →
      unit = (ofSource text).toUnit path ∧ (ofSource text).Named) ∧
    ∀ tree : Tree, tree.Named →
      (tree.toUnit path).declarations.map View.name = tree.declarations.map name ∧
      (∀ tally : Metrics.Tally, (tally.accumulate (tree.toUnit path)).totals.methods =
        tally.totals.methods + tree.declarations.length) ∧
      pairNames (tree.toUnit path) = (tree.declarations.flatMap fun declaration =>
        declaration.calls.map fun call => (declaration.name, call.name)) ∧
      (∀ declaration ∈ tree.declarations, ∀ body,
        declaration.childIn? .body = some body → ∀ call ∈ body.nodes,
        call.isCall = true →
          (declaration.name, call.name) ∈ pairNames (tree.toUnit path)) ∧
      (CoversDeclarations path tree ↔
        ∀ node ∈ tree.descendants, node.isCompactConstructor = false) := by
  refine ⟨fun text unit => named_of_parse, fun tree h => ?_⟩
  refine ⟨names_declarations path h, methods_toUnit path h, pairNames_toUnit path h,
    ?_, coversDeclarations_iff path h⟩
  intro declaration hdeclaration body hbody call hcall hisCall
  exact pair_mem_pairNames path h hdeclaration hbody hcall hisCall

/-- A word or mark on the first line, behind what was skipped. -/
def onFirstLine (shape : Shape) (skipped text : String) : Token :=
  ⟨shape, text, skipped, 1, 1⟩

/-- The call `name(argument);` as a statement. -/
def callStatement (name : String) (arguments : List Tree) : Tree :=
  .node none .expressionStatement ⟨1, 1⟩
    [.node none .methodInvocation ⟨1, 1⟩
      [.leaf (some .name) (onFirstLine .word " " name),
        .node none .argumentList ⟨1, 1⟩
          ([.leaf none (onFirstLine .mark "" "(")] ++ arguments ++
            [.leaf none (onFirstLine .mark "" ")")])],
      .leaf none (onFirstLine .mark "" ";")]

/-- A block of one statement. -/
def blockOf (statement : Tree) : Tree :=
  .node (some .body) .block ⟨1, 1⟩
    [.leaf none (onFirstLine .mark " " "\x7b"), statement,
      .leaf none (onFirstLine .mark " " "\x7d")]

/-- The members of `record P(int x)` with a compact constructor `P` that calls
`check(x)` and a method `void run()` that calls `stop()`. -/
def recordMembers : List Tree :=
  [.leaf none (onFirstLine .mark " " "\x7b"),
    .node none .compactConstructor ⟨1, 1⟩
      [.leaf (some .name) (onFirstLine .word " " "P"),
        blockOf (callStatement "check" [.leaf none (onFirstLine .word "" "x")])],
    .node none .methodDeclaration ⟨1, 1⟩
      [.leaf none (onFirstLine .word " " "void"),
        .leaf (some .name) (onFirstLine .word " " "run"),
        .node (some .parameters) .formalParameters ⟨1, 1⟩
          [.leaf none (onFirstLine .mark "" "("),
            .leaf none (onFirstLine .mark "" ")")],
        blockOf (callStatement "stop" [])],
    .leaf none (onFirstLine .mark " " "\x7d")]

/-- The tree of a file that holds that record alone. -/
def recordFile : Tree :=
  .node none .program ⟨1, 1⟩
    [.node none .recordDeclaration ⟨1, 1⟩
      [.leaf none (onFirstLine .word "" "record"),
        .leaf (some .name) (onFirstLine .word " " "P"),
        .node (some .parameters) .formalParameters ⟨1, 1⟩
          [.leaf none (onFirstLine .mark "" "("),
            .node none .formalParameter ⟨1, 1⟩
              [.leaf none (onFirstLine .word "" "int"),
                .leaf (some .name) (onFirstLine .word " " "x")],
            .leaf none (onFirstLine .mark "" ")")],
        .node (some .body) .classBody ⟨1, 1⟩ recordMembers]]

/-- In the record's file the method is counted, with its call. -/
theorem calls_of_declarations_record :
    recordFile.Named ∧
      (recordFile.toUnit "P.java").declarations.map View.name = ["run"] ∧
      pairNames (recordFile.toUnit "P.java") = [("run", "stop")] := by
  have hnamed : recordFile.Named := by decide
  obtain ⟨hnames, -, hpairs, -⟩ := (calls_of_declarations "P.java").2 recordFile hnamed
  refine ⟨hnamed, hnames.trans ?_, hpairs.trans ?_⟩
  · decide
  · decide

/-- A compact constructor is not counted and its call has no pair, although the
tree has no fault and both have a name. -/
theorem compact_constructor_unpaired :
    recordFile.hasFault = false ∧ recordFile.Named ∧
      ((recordFile.descendants.filter isCompactConstructor).map fun node =>
        (node.name, (node.childIn? .body).map fun body =>
          (body.nodes.filter isCall).map name)) = [("P", some ["check"])] ∧
      ("P", "check") ∉ pairNames (recordFile.toUnit "P.java") ∧
      (Metrics.Tally.accumulate {} (recordFile.toUnit "P.java")).totals.methods = 1 ∧
      ¬ CoversDeclarations "P.java" recordFile := by
  have hnamed : recordFile.Named := by decide
  refine ⟨by decide, hnamed, by decide, ?_, ?_, ?_⟩
  · rw [pairNames_toUnit "P.java" hnamed]
    decide
  · rw [methods_toUnit "P.java" hnamed]
    decide
  · rw [coversDeclarations_iff "P.java" hnamed]
    decide

end Tree

end JavaSurvey.Java
