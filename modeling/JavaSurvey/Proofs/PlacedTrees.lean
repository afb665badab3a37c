import JavaSurvey.Proofs.NamedTrees

/-!
# Where members and bodies stand

Member declarations stand in bodies, and bodies in what they are the bodies of. Also
few constructs stand in the body of a class or an interface. The grammar says so,
but not by its productions alone: on the way from a construct to the next one there
may be nonterminals that leave no node. What such nonterminals give is bounded by a
table, and a table bounds it if it does so production by production (`Flat.Bounds`).

Two tables are evaluated for the grammar of Java. One tells which members and bodies
a nonterminal without a node gives, the other which of these nonterminals are parts
of a body. Each is found in rounds over all productions, and that the rounds were
enough is part of what is checked.

## Main results

* `Grammar.Fills.within`: what a nonterminal gives is within every bound.
* `Tree.productions_confined`: the evaluated property of the grammar.
* `Tree.placed_ofSource`: in source text, members and bodies are in their places.
-/

namespace JavaSurvey.Grammar

variable {τ κ ρ σ : Type}

/-! ## Bounds on what nonterminals give -/

/-- The construct of a node; tokens have none. -/
def Derivation.construct? : Derivation σ κ ρ → Option κ
  | .leaf _ _ => none
  | .node _ construct _ => some construct

theorem Derivation.construct?_withRole (role : ρ) (tree : Derivation σ κ ρ) :
    (tree.withRole role).construct? = tree.construct? := by
  cases tree <;> rfl

/-- A bound on the nodes that a nonterminal gives: it holds of what stands in the
slots of a production, where what has no node of its own stands for what it gives. -/
def Flat.Bounds (grammar : Flat τ κ ρ) (may : Nat → κ → Prop) : Prop :=
  ∀ production ∈ grammar.productions, ∀ slot ∈ production.body, ∀ number,
    slot.symbol = .nonterminal number → ∀ construct,
      (grammar.node? number = some construct ∨
        grammar.node? number = none ∧ may number construct) →
      may production.head construct

section Bounds

variable {grammar : Flat τ κ ρ} {canRead : Nat → τ → Prop} {tokens : List σ}
  {item : Item} {stop : Nat} {trees : List (Derivation σ κ ρ)}
  {may : Nat → κ → Prop} {production : Production τ ρ}

theorem Flat.Bounds.of_slot (h : grammar.Bounds may) {index filled number : Nat}
    {role : Option ρ} {construct : κ}
    (hproduction : grammar.productions[index]? = some production)
    (hslot : grammar.slot? index filled = some ⟨role, .nonterminal number⟩)
    (hgives : grammar.node? number = some construct ∨
      grammar.node? number = none ∧ may number construct) :
    may production.head construct := by
  rw [Flat.slot?, hproduction, Option.bind_some] at hslot
  exact h production (Array.mem_of_getElem? hproduction) _
    (Array.mem_of_getElem? hslot) number rfl construct hgives

/-- The nodes that fill the slots of a production are within every bound. -/
theorem Fills.within (hbounds : grammar.Bounds may)
    (h : Fills grammar canRead tokens item stop trees)
    (hproduction : grammar.productions[item.production]? = some production) :
    ∀ tree ∈ trees, ∀ construct, tree.construct? = some construct →
      may production.head construct := by
  induction h generalizing production with
  | start => exact List.forall_mem_nil _
  | token _ _ _ _ ih =>
      refine List.forall_mem_append.2 ⟨ih hproduction, List.forall_mem_singleton.2 ?_⟩
      intro construct hconstruct
      cases hconstruct
  | nothing _ _ _ ih => exact ih hproduction
  | node hslot hnode _ _ _ _ ih =>
      refine List.forall_mem_append.2 ⟨ih hproduction, List.forall_mem_singleton.2 ?_⟩
      intro construct hconstruct
      cases hconstruct
      exact hbounds.of_slot hproduction hslot (Or.inl hnode)
  | @hidden _ _ _ _ role _ _ _ _ hslot hnode hfull _ _ _ ih ihspliced =>
      refine List.forall_mem_append.2 ⟨ih hproduction, ?_⟩
      obtain ⟨inner, hinner, rfl, -⟩ := hfull
      have hspliced := ihspliced hinner
      intro tree htree construct hconstruct
      refine hbounds.of_slot hproduction hslot (Or.inr ⟨hnode, ?_⟩)
      cases role with
      | none => exact hspliced tree htree construct hconstruct
      | some role =>
          obtain ⟨other, hother, rfl⟩ := List.mem_map.1 htree
          rw [Derivation.construct?_withRole] at hconstruct
          exact hspliced other hother construct hconstruct

end Bounds

end JavaSurvey.Grammar

namespace JavaSurvey.Java

open Grammar (Derivation Fills Full Production Slot numberIn)

namespace Tree

/-! ## Places -/

/-- The constructs in which a member declaration or a body can stand, and those in
which the parts of an enum can. There are none around a whole file. -/
def homes? : Construct → Option (List Construct)
  | .program => some []
  | .methodDeclaration => some [.program, .classBody, .interfaceBody, .enumMembers]
  | .constructorDeclaration => some [.classBody, .enumMembers]
  | .fieldDeclaration => some [.classBody, .enumMembers]
  | .constantDeclaration => some [.interfaceBody, .annotationTypeBody]
  | .classBody =>
    some [.classDeclaration, .recordDeclaration, .enumConstant, .objectCreation]
  | .interfaceBody => some [.interfaceDeclaration]
  | .annotationTypeBody => some [.annotationTypeDeclaration]
  | .enumBody => some [.enumDeclaration]
  | .enumConstant => some [.enumBody]
  | .enumMembers => some [.enumBody]
  | _ => none

/-- What can stand in the body of a class or an interface. -/
def bodyParts : List Construct :=
  [.fieldDeclaration, .constantDeclaration, .methodDeclaration, .constructorDeclaration,
    .compactConstructor, .block, .staticInitializer, .classDeclaration,
    .interfaceDeclaration, .recordDeclaration, .enumDeclaration,
    .annotationTypeDeclaration]

/-- Whether a construct can stand directly in another one, as far as members and
bodies are concerned. -/
def mayStandIn (parent child : Construct) : Bool :=
  (homes? child).all (·.contains parent) &&
    (!isTypeBody (some parent) || bodyParts.contains child)

/-- At and below a tree, members and bodies are in their places. -/
def Placed (tree : Tree) : Prop :=
  ∀ node ∈ tree.nodes, ∀ child ∈ node.children, ∀ inner ∈ child.construct?,
    node.construct?.all (mayStandIn · inner) = true

instance (tree : Tree) : Decidable tree.Placed :=
  inferInstanceAs (Decidable (∀ node ∈ tree.nodes, ∀ child ∈ node.children,
    ∀ inner ∈ child.construct?, node.construct?.all (mayStandIn · inner) = true))

/-! ## Places in the grammar -/

/-- The constructs with few homes that a slot gives, where `known` tells those that a
nonterminal without a node gives. -/
def confinedIn (known : List (Nat × Construct)) (slot : Slot Terminal Role) :
    List Construct :=
  match slot.symbol with
  | .terminal _ => []
  | .nonterminal number =>
    match shown? number with
    | some construct => if (homes? construct).isSome then [construct] else []
    | none => (known.filter fun entry => entry.1 == number).map Prod.snd

/-- The constructs with few homes that nonterminals without a node give, as far as
that shows in some rounds. -/
def confinedAfter (productions : List (Production Terminal Role)) :
    Nat → List (Nat × Construct)
  | 0 => []
  | rounds + 1 =>
    productions.flatMap fun production =>
      if (shown? production.head).isSome then []
      else
        (production.body.toList.flatMap
          (confinedIn (confinedAfter productions rounds))).map (production.head, ·)

/-- Whether a construct that a nonterminal gives is at home in the node, or is known
where there is none. -/
def staysIn (known : List (Nat × Construct)) (number : Nat) (construct : Construct) :
    Bool :=
  match shown? number with
  | some parent => (homes? construct).all (·.contains parent)
  | none => known.contains (number, construct)

/-- The nonterminals that stand for parts of a body, as far as that shows in some
rounds, and those of the bodies themselves. -/
def inBodiesAfter (productions : List (Production Terminal Role)) : Nat → List Nat
  | 0 => (List.range rules.length).filter fun number => isTypeBody (shown? number)
  | rounds + 1 =>
    let known := inBodiesAfter productions rounds
    known ++ productions.flatMap fun production =>
      if known.contains production.head then
        production.body.toList.filterMap fun slot =>
          match slot.symbol with
          | .terminal _ => none
          | .nonterminal number => if (shown? number).isSome then none else some number
      else []

/-- Whether a slot gives parts of a body only. -/
def isBodySlot (known : List Nat) (slot : Slot Terminal Role) : Bool :=
  match slot.symbol with
  | .terminal _ => true
  | .nonterminal number =>
    match shown? number with
    | some construct => bodyParts.contains construct
    | none => known.contains number

/-- The productions of the grammar, in a form that can be evaluated. -/
def flatProductions : List (Production Terminal Role) :=
  (Grammar.Phrase.flatten (numberIn rules) rules rules.length).1

/-- Two rounds over the productions find all constructs with few homes and all parts
of bodies, and these are in their places. -/
theorem productions_confined :
    (flatProductions.all fun production =>
      (production.body.toList.flatMap
        (confinedIn (confinedAfter flatProductions 2))).all
        (staysIn (confinedAfter flatProductions 2) production.head)) = true ∧
    (flatProductions.all fun production =>
      !(inBodiesAfter flatProductions 2).contains production.head ||
        production.body.all (isBodySlot (inBodiesAfter flatProductions 2))) = true := by
  decide +kernel

theorem mem_flatProductions {production : Production Terminal Role}
    (h : production ∈ grammar.productions) : production ∈ flatProductions := by
  have hlist := Grammar.productions_ofDefinitions rules Construct.shows .program
  rw [flatProductions, ← hlist]
  exact Array.mem_toList_iff.2 h

section Slots

variable {slot : Slot Terminal Role} {number : Nat} {construct : Construct}

theorem mem_confinedIn {known : List (Nat × Construct)}
    (hsymbol : slot.symbol = .nonterminal number)
    (hconfined : (homes? construct).isSome = true)
    (h : shown? number = some construct ∨
      shown? number = none ∧ staysIn known number construct = true) :
    construct ∈ confinedIn known slot := by
  rw [confinedIn, hsymbol]
  rcases h with hshown | ⟨hhidden, hknown⟩
  · simp [hshown, hconfined]
  · simpa [hhidden, staysIn] using hknown

theorem mem_bodyParts_of_isBodySlot {known : List Nat}
    (hslot : isBodySlot known slot = true) (hsymbol : slot.symbol = .nonterminal number)
    (h : shown? number = some construct ∨
      shown? number = none ∧ (number ∈ known → construct ∈ bodyParts)) :
    construct ∈ bodyParts := by
  rw [isBodySlot, hsymbol] at hslot
  rcases h with hshown | ⟨hhidden, hknown⟩
  · simpa [hshown] using hslot
  · exact hknown (by simpa [hhidden] using hslot)

theorem mem_inBodiesAfter (productions : List (Production Terminal Role)) (rounds : Nat)
    (h : isTypeBody (shown? number) = true) :
    number ∈ inBodiesAfter productions rounds := by
  induction rounds with
  | zero =>
      refine List.mem_filter.2 ⟨List.mem_range.2 ?_, h⟩
      by_contra hlarge
      rw [shown?, List.getElem?_eq_none (Nat.le_of_not_lt hlarge)] at h
      exact Bool.false_ne_true h
  | succ rounds ih => exact List.mem_append_left _ ih

end Slots

/-- What the two tables allow a nonterminal to give. -/
structure MayGive (number : Nat) (construct : Construct) : Prop where
  confined : (homes? construct).isSome = true →
    staysIn (confinedAfter flatProductions 2) number construct = true
  inBody : number ∈ inBodiesAfter flatProductions 2 → construct ∈ bodyParts

theorem bounds_mayGive : grammar.Bounds MayGive := by
  intro production hproduction slot hslot number hsymbol construct hgives
  have hmem := mem_flatProductions hproduction
  rw [node?_grammar] at hgives
  constructor
  · intro hconfined
    have hstays := List.all_eq_true.1 productions_confined.1 production hmem
    refine List.all_eq_true.1 hstays construct (List.mem_flatMap.2
      ⟨slot, Array.mem_toList_iff.2 hslot, mem_confinedIn hsymbol hconfined ?_⟩)
    exact hgives.imp_right fun h => ⟨h.1, h.2.confined hconfined⟩
  · intro hbody
    have hslots := List.all_eq_true.1 productions_confined.2 production hmem
    rw [List.contains_iff_mem.2 hbody, Bool.not_true, Bool.false_or,
      Array.all_eq_true_iff_forall_mem] at hslots
    refine mem_bodyParts_of_isBodySlot (hslots slot hslot) hsymbol ?_
    exact hgives.imp_right fun h => ⟨h.1, h.2.inBody⟩

theorem mayStandIn_of_mayGive {number : Nat} {parent construct : Construct}
    (hparent : shown? number = some parent) (h : MayGive number construct) :
    mayStandIn parent construct = true := by
  rw [mayStandIn, Bool.and_eq_true]
  constructor
  · cases hhomes : homes? construct with
    | none => rfl
    | some homes =>
        have hstays := h.confined (by rw [hhomes]; rfl)
        rw [staysIn, hparent, hhomes] at hstays
        exact hstays
  · rw [Bool.or_eq_true, Bool.not_eq_true', List.contains_iff_mem]
    cases hbody : isTypeBody (some parent) with
    | false => exact Or.inl rfl
    | true =>
        have hnumber := mem_inBodiesAfter flatProductions 2 (by rw [hparent]; exact hbody)
        exact Or.inr (h.inBody hnumber)

/-! ## Places in source text -/

theorem nodes_eq (tree : Tree) : tree.nodes = tree :: tree.descendants := by
  cases tree <;> rfl

theorem construct?_ofDerivation (derivation : Derivation Token Construct Role) :
    (ofDerivation derivation).construct? = derivation.construct? := by
  cases derivation <;> rfl

/-- All children of a node of a derivation are in their places. -/
def PlacedBelow (parent : Construct) (children : List (Derivation Token Construct Role)) :
    Prop :=
  ∀ child ∈ children, ∀ inner, child.construct? = some inner →
    mayStandIn parent inner = true

theorem placedBelow_of_fills {canRead : Nat → Terminal → Prop} {tokens : List Token}
    {number stop : Nat} {parent : Construct} {item : Grammar.Item}
    {children : List (Derivation Token Construct Role)}
    (hnode : grammar.node? number = some parent) (hfull : Full grammar number item)
    (h : Fills grammar canRead tokens item stop children) :
    PlacedBelow parent children := by
  obtain ⟨production, hproduction, rfl, -⟩ := hfull
  rw [node?_grammar] at hnode
  intro child hchild inner hinner
  exact mayStandIn_of_mayGive hnode
    (h.within bounds_mayGive hproduction child hchild inner hinner)

theorem node?_start : grammar.node? grammar.start = some .program := by
  rw [node?_grammar, grammar, Grammar.ofDefinitions_eq]
  decide

/-- In source text that is Java, members and bodies are in their places. -/
theorem placed_ofSource {text : String} (h : (ofSource text).hasFault = false) :
    (ofSource text).Placed := by
  obtain ⟨derivations, item, hchildren, hfull, hfills⟩ := exists_fills_ofSource h
  have hall := Derivation.allNodesOfAll_iff.2
    (hfills.allNodes PlacedBelow placedBelow_of_fills)
  intro node hnode child hchild inner hinner
  cases hparent : node.construct? with
  | none => rfl
  | some parent =>
      obtain ⟨children, hplaced, hparts⟩ : ∃ children, PlacedBelow parent children ∧
          node.children = ofDerivations children := by
        rw [nodes_eq, List.mem_cons, descendants, hchildren] at hnode
        rcases hnode with rfl | hbelow
        · cases hparent
          exact ⟨derivations, placedBelow_of_fills node?_start hfull hfills, hchildren⟩
        · exact exists_of_mem_nodesOfAll derivations hall node hbelow parent hparent
      rw [hparts, ofDerivations_eq_map] at hchild
      obtain ⟨part, hpart, rfl⟩ := List.mem_map.1 hchild
      rw [construct?_ofDerivation] at hinner
      exact hplaced part hpart inner hinner

end Tree

end JavaSurvey.Java
