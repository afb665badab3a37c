import JavaSurvey.Proofs.Derivations
import JavaSurvey.Proofs.KeptNodes

/-!
# Methods, constructors, calls and types have names

The analysed tree takes the names of methods, constructors, calls and types from the
concrete tree, where each is the text of a child in the role of the name. Such a
child need not be there in every tree, and in a tree that is made up its text may
be empty. In the tree of a source text that is Java neither happens: the grammar
has no production for these constructs without a slot for the name, whatever
fills a slot has a token, and a token has text.

The first of these is a property of the grammar as a whole. It is evaluated once,
together with the bounds that reading needs, over the list of all productions.

## Main results

* `text_ne_empty_of_mem_tokenize`: tokens have text.
* `Tree.productions_short_and_named`: the evaluated property of the grammar.
* `Tree.namedThroughout_ofSource`, `named_of_parse`: source text has the names.
-/

namespace JavaSurvey.Java

open Syntax (SourceUnit)
open Grammar (Derivation Fills Full Slot Phrase.flatten numberIn)

/-! ## Tokens have text -/

/-- Every lexeme takes at least one character. -/
theorem text_ne_empty_of_mem_cutAll {done : Array Lexeme} {templates : List Template}
    {text : List Char} (hdone : ∀ lexeme ∈ done, lexeme.text ≠ "") :
    ∀ lexeme ∈ cutAll done templates text, lexeme.text ≠ "" := by
  fun_induction cutAll done templates text with
  | case1 => exact hdone
  | case2 done templates c rest next ih =>
      refine ih fun lexeme hlexeme => ?_
      rcases Array.mem_push.1 hlexeme with hold | rfl
      · exact hdone lexeme hold
      · simp

theorem text_ne_empty_of_mem_lexemes {text : String} :
    ∀ lexeme ∈ lexemes text, lexeme.text ≠ "" := by
  rw [lexemes]
  split
  · refine text_ne_empty_of_mem_cutAll fun lexeme hlexeme => ?_
    simp only [List.mem_toArray, List.mem_singleton] at hlexeme
    rw [hlexeme]
    decide
  · exact text_ne_empty_of_mem_cutAll (by simp)

theorem text_ne_empty_of_mem_step {state : TokenizerState} {lexeme : Lexeme}
    (hlexeme : lexeme.text ≠ "") (h : ∀ token ∈ state.tokens, token.text ≠ "") :
    ∀ token ∈ (state.step lexeme).tokens, token.text ≠ "" := by
  intro token htoken
  rw [TokenizerState.step] at htoken
  split at htoken
  · exact h token htoken
  · exact h token htoken
  · rcases Array.mem_push.1 htoken with hold | rfl
    · exact h token hold
    · exact hlexeme

/-- Every token takes at least one character. -/
theorem text_ne_empty_of_mem_tokenize {text : String} :
    ∀ token ∈ (tokenize text).tokens, token.text ≠ "" := by
  have hfold : ∀ (rest : List Lexeme) (state : TokenizerState),
      (∀ lexeme ∈ rest, lexeme.text ≠ "") → (∀ token ∈ state.tokens, token.text ≠ "") →
      ∀ token ∈ (rest.foldl TokenizerState.step state).tokens, token.text ≠ "" := by
    intro rest
    induction rest with
    | nil => exact fun _ _ h => h
    | cons lexeme rest ih =>
        intro state hlexemes h
        obtain ⟨hlexeme, hrest⟩ := List.forall_mem_cons.1 hlexemes
        exact ih _ hrest (text_ne_empty_of_mem_step hlexeme h)
  rw [tokenize, ← Array.foldl_toList]
  exact hfold _ _ (fun lexeme hlexeme =>
    text_ne_empty_of_mem_lexemes lexeme (Array.mem_toList_iff.1 hlexeme)) (by simp)

namespace Tree

theorem textOfTokens_ne_empty {tokens : List Token} (hnil : tokens ≠ [])
    (h : ∀ token ∈ tokens, token.text ≠ "") : textOfTokens tokens ≠ "" := by
  have hfold : ∀ (rest : List Token) (text : String), text ≠ "" →
      rest.foldl (fun text token => text ++ token.skipped ++ token.text) text ≠ "" := by
    intro rest
    induction rest with
    | nil => exact fun _ htext => htext
    | cons token rest ih =>
        intro text htext
        refine ih _ ?_
        simp [htext]
  cases tokens with
  | nil => exact absurd rfl hnil
  | cons first rest => exact hfold rest _ (h first List.mem_cons_self)

/-! ## Nodes below a node -/

mutual

/-- Every node at or below a tree, in pre-order. -/
def nodes : Tree → List Tree
  | .leaf role token => [.leaf role token]
  | .node role construct span children =>
    .node role construct span children :: nodesOfAll children

/-- Every node at or below several trees. -/
def nodesOfAll : List Tree → List Tree
  | [] => []
  | tree :: rest => tree.nodes ++ nodesOfAll rest

end

/-- Every node properly below a tree, in pre-order. -/
def descendants (tree : Tree) : List Tree :=
  nodesOfAll tree.children

/-- The constructs that go by a name and are called or call: methods,
constructors in either form, and calls. -/
def goesByName (construct : Construct) : Bool :=
  construct == .methodDeclaration || construct == .constructorDeclaration ||
    construct == .compactConstructor || construct == .methodInvocation

/-- The constructs that have a name: those, types and packages. -/
def bearsName (construct : Construct) : Bool :=
  goesByName construct || construct == .classDeclaration ||
    construct == .interfaceDeclaration || construct == .packageDeclaration

/-- The name of a node, empty if it has none. -/
def name (tree : Tree) : String :=
  tree.nameText?.getD ""

/-- Every method, constructor and call below a tree has a name. -/
def Named (tree : Tree) : Prop :=
  ∀ node ∈ tree.descendants, node.construct?.any goesByName = true → node.name ≠ ""

instance (tree : Tree) : Decidable tree.Named :=
  inferInstanceAs (Decidable (∀ node ∈ tree.descendants,
    node.construct?.any goesByName = true → node.name ≠ ""))

/-- All that has a name below a tree has one: methods, constructors, calls, types
and packages. -/
def NamedThroughout (tree : Tree) : Prop :=
  ∀ node ∈ tree.descendants, node.construct?.any bearsName = true → node.name ≠ ""

instance (tree : Tree) : Decidable tree.NamedThroughout :=
  inferInstanceAs (Decidable (∀ node ∈ tree.descendants,
    node.construct?.any bearsName = true → node.name ≠ ""))

theorem bearsName_of_goesByName {tree : Tree}
    (h : tree.construct?.any goesByName = true) :
    tree.construct?.any bearsName = true := by
  obtain ⟨construct, hconstruct, hnamed⟩ := (Option.any_eq_true _ _).1 h
  rw [hconstruct, Option.any_some, bearsName, hnamed]
  rfl

theorem NamedThroughout.named {tree : Tree} (h : tree.NamedThroughout) : tree.Named := by
  intro node hnode hnamed
  exact h node hnode (bearsName_of_goesByName hnamed)

theorem isSome_nameText? {tree : Tree} (h : tree.name ≠ "") :
    tree.nameText?.isSome = true := by
  rw [name] at h
  cases htext : tree.nameText? with
  | none => exact absurd (by rw [htext]; rfl) h
  | some text => rfl

mutual

theorem descendants_subset_nodes : (tree : Tree) → ∀ node ∈ tree.nodes,
    node.descendants ⊆ tree.nodes
  | .leaf _ _ => by
      intro node hnode
      cases List.mem_singleton.1 hnode
      exact List.nil_subset _
  | .node _ _ _ children => by
      intro node hnode
      rcases List.mem_cons.1 hnode with rfl | hbelow
      · exact List.subset_cons_self _ _
      · exact List.Subset.trans (descendants_subset_nodesOfAll children node hbelow)
          (List.subset_cons_self _ _)

theorem descendants_subset_nodesOfAll : (trees : List Tree) →
    ∀ node ∈ nodesOfAll trees, node.descendants ⊆ nodesOfAll trees
  | [] => by
      intro node hnode
      cases hnode
  | tree :: rest => by
      intro node hnode
      rcases List.mem_append.1 hnode with hnode | hnode
      · exact List.Subset.trans (descendants_subset_nodes tree node hnode)
          (List.subset_append_left _ _)
      · exact List.Subset.trans (descendants_subset_nodesOfAll rest node hnode)
          (List.subset_append_right _ _)

end

/-- What stands below a node of a tree stands below the tree. -/
theorem descendants_subset {tree node : Tree} (h : node ∈ tree.descendants) :
    node.descendants ⊆ tree.descendants :=
  descendants_subset_nodesOfAll tree.children node h

theorem Named.descendant {tree node : Tree} (h : tree.Named)
    (hnode : node ∈ tree.descendants) : node.Named :=
  fun other hother => h other (descendants_subset hnode hother)

/-! ## From derivations to trees -/

theorem ofDerivations_eq_map (derivations : List (Derivation Token Construct Role)) :
    ofDerivations derivations = derivations.map ofDerivation := by
  induction derivations with
  | nil => rfl
  | cons derivation derivations ih => rw [ofDerivations, ih, List.map_cons]

theorem role_ofDerivation (derivation : Derivation Token Construct Role) :
    (ofDerivation derivation).role = derivation.role := by
  cases derivation <;> rfl

mutual

theorem tokens_ofDerivation : (derivation : Derivation Token Construct Role) →
    (ofDerivation derivation).tokens = derivation.tokens
  | .leaf _ _ => rfl
  | .node _ _ children => tokensOfAll_ofDerivations children

theorem tokensOfAll_ofDerivations :
    (derivations : List (Derivation Token Construct Role)) →
    tokensOfAll (ofDerivations derivations) = Derivation.tokensOfAll derivations
  | [] => rfl
  | derivation :: rest => by
      rw [ofDerivations, tokensOfAll, tokens_ofDerivation derivation,
        tokensOfAll_ofDerivations rest, Derivation.tokensOfAll]

end

section

variable {holds : Construct → List (Derivation Token Construct Role) → Prop}

mutual

theorem exists_of_mem_nodes : (derivation : Derivation Token Construct Role) →
    derivation.AllNodes holds → ∀ node ∈ (ofDerivation derivation).nodes,
    ∀ construct, node.construct? = some construct →
      ∃ children, holds construct children ∧ node.children = ofDerivations children
  | .leaf role token => by
      intro _ node hnode construct hconstruct
      cases List.mem_singleton.1 hnode
      cases hconstruct
  | .node role name children => by
      rintro ⟨hholds, hchildren⟩ node hnode construct hconstruct
      rcases List.mem_cons.1 hnode with rfl | hbelow
      · cases hconstruct
        exact ⟨children, hholds, rfl⟩
      · exact exists_of_mem_nodesOfAll children hchildren node hbelow construct
          hconstruct

/-- The nodes of the tree of a derivation are nodes of the derivation. -/
theorem exists_of_mem_nodesOfAll :
    (derivations : List (Derivation Token Construct Role)) →
    Derivation.AllNodesOfAll holds derivations →
    ∀ node ∈ nodesOfAll (ofDerivations derivations),
    ∀ construct, node.construct? = some construct →
      ∃ children, holds construct children ∧ node.children = ofDerivations children
  | [] => by
      intro _ node hnode
      cases hnode
  | derivation :: rest => by
      rintro ⟨hfirst, hrest⟩ node hnode construct hconstruct
      rcases List.mem_append.1 hnode with hnode | hnode
      · exact exists_of_mem_nodes derivation hfirst node hnode construct hconstruct
      · exact exists_of_mem_nodesOfAll rest hrest node hnode construct hconstruct

end

end

/-! ## Names in source text -/

/-- The construct that a nonterminal of the grammar shows as. -/
def shown? (number : Nat) : Option Construct :=
  (rules[number]?.map Prod.fst).filter Construct.shows

/-- The productions of the grammar are short, and wherever a construct has a name,
each of its productions has a slot for the name. -/
theorem productions_short_and_named :
    let flat := Grammar.Phrase.flatten (numberIn rules) rules rules.length
    (flat.1.all fun production =>
      production.body.size < 64 && production.head < flat.2) = true ∧
    (flat.1.all fun production =>
      (shown? production.head).elim true fun construct =>
        !bearsName construct || production.body.any
          (Slot.gives flat.1 (fun number => (shown? number).isSome) Role.name 2)) =
      true := by
  decide +kernel

theorem grammar_proper : grammar.Proper :=
  Grammar.proper_ofDefinitions rules Construct.shows .program
    productions_short_and_named.1

theorem node?_grammar (number : Nat) : grammar.node? number = shown? number :=
  Grammar.node?_ofDefinitions rules Construct.shows .program number

/-- What has a name has a child in the role of its name. -/
theorem exists_name {canRead : Nat → Terminal → Prop} {tokens : List Token}
    {number stop : Nat} {construct : Construct} {inner : Grammar.Item}
    {children : List (Derivation Token Construct Role)}
    (hnode : grammar.node? number = some construct)
    (hnamed : bearsName construct = true)
    (hfull : Full grammar number inner)
    (h : Fills grammar canRead tokens inner stop children) :
    ∃ child ∈ children, child.role = some .name := by
  have hproductions := Grammar.productions_ofDefinitions rules Construct.shows .program
  have hslots : ∀ production ∈ grammar.productions.toList, production.head = number →
      production.body.any (Slot.gives grammar.productions.toList
        (fun number => (shown? number).isSome) Role.name 2) = true := by
    intro production hproduction hhead
    rw [grammar, hproductions] at hproduction ⊢
    have hcheck :=
      List.all_eq_true.1 productions_short_and_named.2 production hproduction
    rw [hhead, ← node?_grammar, hnode] at hcheck
    simpa [hnamed] using hcheck
  obtain ⟨place, slot, hplace, hslot, hgives⟩ := hfull.exists_slot _ hslots
  refine h.exists_role grammar_proper ?_ hplace hslot hgives
  intro number hshown
  rw [← node?_grammar]
  exact Option.isSome_iff_ne_none.2 hshown

/-- What holds of the nodes of a derivation of source text: all parts have text,
and a name is there where there is to be one. -/
structure WellNamed (tokens : List Token) (construct : Construct)
    (children : List (Derivation Token Construct Role)) : Prop where
  parts : ∀ child ∈ children, child.tokens ≠ [] ∧ child.tokens ⊆ tokens
  name : bearsName construct = true →
    ∃ child ∈ children, child.role = some .name

theorem name_ne_empty_of_wellNamed {tokens : List Token} {construct : Construct}
    {children : List (Derivation Token Construct Role)}
    (htokens : ∀ token ∈ tokens, token.text ≠ "")
    (h : WellNamed tokens construct children)
    (hnamed : bearsName construct = true) {tree : Tree}
    (hchildren : tree.children = ofDerivations children) : tree.name ≠ "" := by
  obtain ⟨child, hchild, hrole⟩ := h.name hnamed
  cases hfound : tree.childIn? .name with
  | none =>
      rw [childIn?, hchildren, ofDerivations_eq_map, List.find?_eq_none] at hfound
      have hnot := hfound _ (List.mem_map_of_mem hchild)
      rw [role_ofDerivation, hrole] at hnot
      exact absurd (beq_self_eq_true _) hnot
  | some found =>
      rw [name, nameText?, hfound, Option.map_some, Option.getD_some]
      have hmem := List.mem_of_find?_eq_some hfound
      rw [hchildren, ofDerivations_eq_map] at hmem
      obtain ⟨part, hpart, rfl⟩ := List.mem_map.1 hmem
      obtain ⟨hnil, hsubset⟩ := h.parts part hpart
      rw [text, tokens_ofDerivation]
      exact textOfTokens_ne_empty hnil fun token htoken =>
        htokens token (hsubset htoken)

theorem anyHasFault_eq_any (trees : List Tree) :
    anyHasFault trees = trees.any hasFault := by
  induction trees with
  | nil => rfl
  | cons tree trees ih => rw [anyHasFault, ih, List.any_cons]

theorem hasFault_fault (source : TokenizedSource) (number : Nat) :
    (fault source number).hasFault = true := by
  rw [fault]
  split <;> rfl

/-- Source text that is Java has a derivation by the grammar. -/
theorem exists_fills_ofSource {text : String} (h : (ofSource text).hasFault = false) :
    ∃ derivations item, (ofSource text).children = ofDerivations derivations ∧
      Full grammar grammar.start item ∧
      Fills grammar (Grammar.CanRead readings (tokenize text).tokens.toList)
        (tokenize text).tokens.toList item (tokenize text).tokens.size derivations := by
  rw [ofSource] at h ⊢
  cases hread : grammar.read readings (tokenize text).tokens with
  | error number =>
      rw [hread] at h
      rw [hasFault, anyHasFault_eq_any, Bool.or_eq_false_iff, List.any_eq_false] at h
      exact absurd (hasFault_fault (tokenize text) number)
        (h.2 _ List.mem_concat_self)
  | ok derivations =>
      obtain ⟨item, hfull, -, hfills⟩ := Grammar.fills_of_read grammar_proper hread
      exact ⟨derivations, item, rfl, hfull, hfills⟩

/-- In source text that is Java, all that has a name has one. -/
theorem namedThroughout_ofSource {text : String}
    (h : (ofSource text).hasFault = false) : (ofSource text).NamedThroughout := by
  obtain ⟨derivations, item, hchildren, -, hfills⟩ := exists_fills_ofSource h
  intro node hnode hnamed
  obtain ⟨construct, hconstruct, hnamed⟩ := (Option.any_eq_true _ _).1 hnamed
  have hall := Derivation.allNodesOfAll_iff.2 (hfills.allNodes
    (WellNamed (tokenize text).tokens.toList) (by
      intro number construct inner stop children hnode hfull hchildren
      exact ⟨fun child hchild => ⟨hchildren.tokens_ne_nil hchild,
          List.Subset.trans (Derivation.tokens_subset_tokensOfAll hchild)
            hchildren.tokensOfAll_subset⟩,
        fun hnamed => exists_name hnode hnamed hfull hchildren⟩))
  rw [descendants, hchildren] at hnode
  obtain ⟨children, hwell, hparts⟩ :=
    exists_of_mem_nodesOfAll derivations hall node hnode construct hconstruct
  refine name_ne_empty_of_wellNamed ?_ hwell hnamed hparts
  intro token htoken
  exact text_ne_empty_of_mem_tokenize token (Array.mem_toList_iff.1 htoken)

end Tree

/-- A source file that is read has names for all its methods, constructors and
calls. -/
theorem named_of_parse {path text : String} {unit : SourceUnit}
    (h : parse path text = .ok unit) :
    unit = (Tree.ofSource text).toUnit path ∧ (Tree.ofSource text).Named := by
  obtain ⟨hunit, hfault⟩ := eq_toUnit_of_parse h
  exact ⟨hunit, (Tree.namedThroughout_ofSource hfault).named⟩

end JavaSurvey.Java
