import JavaSurvey.Proofs.NamedTrees

/-!
# The first fault of a tree

The search for the line of a fault does not look into every tree: it passes over
those without a fault, and stops at the first line it finds. A full search lists
all nodes in pre-order and takes the first one that is a fault. Both give the same
line, however deep the faults stand and however many there are. So where there is
a fault a line is found, and the line that a reader of source text falls back on
is never reported.

In the tree of a source text the first fault is the token that fits nowhere, or
the place where the text ends too early. Lines are counted by cutting the text
into lexemes; what is counted is the line feeds in front of the fault. What is said
of the text of a fault is about the trees of `Tree.ofSource`, whose faults stand
where `Tree.fault` puts them; what is said of all trees does not depend on that.

## Main results

* `Tree.firstFaultLine?_eq_find?`: the search with pruning and the full one.
* `standsOn_of_mem_tokenize`: tokens stand in the text on the lines they name.
* `Tree.find?_nodes_ofSource`: the first fault of source text.
* `Tree.firstFault_reported`: the above for all trees and all source texts.
-/

namespace JavaSurvey.Java

open Grammar (Derivation)

/-! ## Searching with and without pruning -/

namespace Tree

mutual

/-- There is a fault at or below a node if one of its nodes is a fault. -/
theorem hasFault_eq_any : (tree : Tree) → tree.hasFault = tree.nodes.any isFault
  | .leaf _ _ => rfl
  | .node _ _ _ children => by
      rw [hasFault, nodes, List.any_cons, anyHasFault_eq_any_nodes children]

theorem anyHasFault_eq_any_nodes : (trees : List Tree) →
    anyHasFault trees = (nodesOfAll trees).any isFault
  | [] => rfl
  | tree :: rest => by
      rw [anyHasFault, hasFault_eq_any tree, anyHasFault_eq_any_nodes rest, nodesOfAll,
        List.any_append]

end

theorem find?_nodes_eq_none {tree : Tree} (h : tree.hasFault = false) :
    tree.nodes.find? isFault = none := by
  rw [hasFault_eq_any, List.any_eq_false] at h
  exact List.find?_eq_none.2 h

mutual

/-- The search with pruning finds the line of the first fault in pre-order. -/
theorem firstFaultLine?_eq_find? : (tree : Tree) →
    tree.firstFaultLine? = (tree.nodes.find? isFault).map (·.span.startLine)
  | .leaf _ _ => rfl
  | .node role construct span children => by
      rw [firstFaultLine?, nodes]
      cases hfault : isFault (.node role construct span children) with
      | true => rw [if_pos rfl, List.find?_cons_of_pos hfault]; rfl
      | false =>
          rw [if_neg Bool.false_ne_true, firstFaultLineOfAll?_eq_find? children,
            List.find?_cons_of_neg (by rw [hfault]; exact Bool.false_ne_true)]

theorem firstFaultLineOfAll?_eq_find? : (trees : List Tree) →
    firstFaultLineOfAll? trees = ((nodesOfAll trees).find? isFault).map (·.span.startLine)
  | [] => rfl
  | tree :: rest => by
      rw [firstFaultLineOfAll?, nodesOfAll, List.find?_append,
        firstFaultLineOfAll?_eq_find? rest]
      cases hfault : tree.hasFault with
      | true => rw [if_pos rfl, firstFaultLine?_eq_find? tree, Option.map_or]
      | false =>
          -- What is passed over has nothing that the full search could find.
          rw [if_neg Bool.false_ne_true, find?_nodes_eq_none hfault, Option.none_or]

end

theorem isSome_firstFaultLine? (tree : Tree) :
    tree.firstFaultLine?.isSome = tree.hasFault := by
  rw [firstFaultLine?_eq_find?, Option.isSome_map, hasFault_eq_any, List.isSome_find?]

end Tree

/-! ## Lines -/

theorem lineFeeds_append (first second : String) :
    lineFeeds (first ++ second) = lineFeeds first + lineFeeds second := by
  rw [lineFeeds, String.toList_append, List.countP_append, lineFeeds, lineFeeds]

/-- The text that lexemes cover. -/
def textOfLexemes (lexemes : List Lexeme) : String :=
  String.join (lexemes.map Lexeme.text)

theorem textOfLexemes_append (first second : List Lexeme) :
    textOfLexemes (first ++ second) = textOfLexemes first ++ textOfLexemes second := by
  rw [textOfLexemes, List.map_append, String.join_append, textOfLexemes, textOfLexemes]

theorem textOfLexemes_singleton (lexeme : Lexeme) :
    textOfLexemes [lexeme] = lexeme.text := by
  simp [textOfLexemes]

theorem textOfLexemes_cutAll (done : Array Lexeme) (templates : List Template)
    (text : List Char) :
    textOfLexemes (cutAll done templates text).toList =
      textOfLexemes done.toList ++ String.ofList text := by
  fun_induction cutAll done templates text with
  | case1 => simp
  | case2 done templates c rest next ih =>
      rw [ih, Array.toList_push, textOfLexemes_append, textOfLexemes_singleton,
        String.append_assoc, ← String.ofList_append, List.take_append_drop]

/-- Cutting a text into lexemes leaves nothing out. -/
theorem textOfLexemes_lexemes (text : String) :
    textOfLexemes (lexemes text).toList = text := by
  rw [lexemes]
  split
  next rest htext =>
    rw [textOfLexemes_cutAll, ← String.toList_inj, htext]
    simp [textOfLexemes]
  next =>
    rw [textOfLexemes_cutAll, String.ofList_toList]
    simp [textOfLexemes]

/-- The text stands in a source text, and `line` is the line on which it begins,
counted from one. -/
def StandsOn (source : String) (line : Nat) (text : String) : Prop :=
  ∃ front back, source = front ++ text ++ back ∧ line = 1 + lineFeeds front

theorem StandsOn.append {source text : String} {line : Nat}
    (h : StandsOn source line text) (more : String) :
    StandsOn (source ++ more) line text := by
  obtain ⟨front, back, rfl, rfl⟩ := h
  exact ⟨front, back ++ more, by rw [String.append_assoc, String.append_assoc], rfl⟩

/-- What a tokenizer has taken into account: its lines are those of the text so
far. -/
structure TokenizerState.Covers (state : TokenizerState) (done : String) : Prop where
  line : state.line = 1 + lineFeeds done
  startLine : ∀ line, state.startLine = some line → StandsOn done line ""
  tokens : ∀ token ∈ state.tokens, StandsOn done token.startLine token.text ∧
    StandsOn done token.endLine ""

/-- One more lexeme goes on behind the text so far. -/
theorem TokenizerState.Covers.step {state : TokenizerState} {done : String}
    (h : state.Covers done) (lexeme : Lexeme) :
    (state.step lexeme).Covers (done ++ lexeme.text) := by
  have hline : state.line + lineFeeds lexeme.text =
      1 + lineFeeds (done ++ lexeme.text) := by
    rw [lineFeeds_append, h.line, Nat.add_assoc]
  have hold : ∀ line, state.startLine = some line →
      StandsOn (done ++ lexeme.text) line "" := fun line hstart =>
    (h.startLine line hstart).append lexeme.text
  -- The first comment or token starts on the line that is reached.
  have hstart : ∀ line, state.startLine.or (some state.line) = some line →
      StandsOn (done ++ lexeme.text) line "" := by
    intro line hor
    rcases Option.or_eq_some_iff.1 hor with hstart | ⟨-, hstart⟩
    · exact hold line hstart
    · cases hstart
      exact ⟨done, lexeme.text, by simp, h.line⟩
  have htokens : ∀ token ∈ state.tokens,
      StandsOn (done ++ lexeme.text) token.startLine token.text ∧
        StandsOn (done ++ lexeme.text) token.endLine "" := fun token htoken =>
    ⟨(h.tokens token htoken).1.append _, (h.tokens token htoken).2.append _⟩
  rw [TokenizerState.step]
  split
  · exact ⟨hline, hold, htokens⟩
  · exact ⟨hline, hstart, htokens⟩
  · refine ⟨hline, hstart, fun token htoken => ?_⟩
    rcases Array.mem_push.1 htoken with hmem | rfl
    · exact htokens token hmem
    · exact ⟨⟨done, "", by simp, h.line⟩, ⟨done ++ lexeme.text, "", by simp, hline⟩⟩

/-- From the first lexeme on, a tokenizer covers what it was given. -/
theorem TokenizerState.Covers.foldl {state : TokenizerState} {done : String}
    (h : state.Covers done) (lexemes : List Lexeme) :
    (lexemes.foldl TokenizerState.step state).Covers (done ++ textOfLexemes lexemes) := by
  induction lexemes generalizing state done with
  | nil => simpa [textOfLexemes] using h
  | cons lexeme lexemes ih =>
      have hrest := ih (h.step lexeme)
      rw [String.append_assoc] at hrest
      simpa [textOfLexemes] using hrest

theorem covers_lexemes (text : String) :
    ((lexemes text).foldl TokenizerState.step {}).Covers text := by
  have hstart : TokenizerState.Covers {} "" := ⟨rfl, by simp, by simp⟩
  have hall := hstart.foldl (lexemes text).toList
  rwa [textOfLexemes_lexemes, String.empty_append, Array.foldl_toList] at hall

/-- Tokens stand in the text on the lines they name. -/
theorem standsOn_of_mem_tokenize {text : String} {token : Token}
    (h : token ∈ (tokenize text).tokens) :
    StandsOn text token.startLine token.text ∧ StandsOn text token.endLine "" :=
  (covers_lexemes text).tokens token h

theorem standsOn_startLine_tokenize (text : String) :
    StandsOn text (tokenize text).startLine "" := by
  have hcovers := covers_lexemes text
  rw [tokenize]
  cases hstart : ((lexemes text).foldl TokenizerState.step {}).startLine with
  | some line => exact hcovers.startLine line hstart
  | none => exact ⟨text, "", by simp, hcovers.line⟩

namespace Tree

/-! ## Faults of source text -/

/-- A fault stands on the line it names. -/
theorem standsOn_fault (text : String) (number : Nat) :
    StandsOn text (fault (tokenize text) number).span.startLine
      (fault (tokenize text) number).text := by
  rw [fault]
  split
  next token htoken =>
    exact (standsOn_of_mem_tokenize (Array.mem_of_getElem? htoken)).1
  next =>
    cases hlast : (tokenize text).tokens.back? with
    | none => exact standsOn_startLine_tokenize text
    | some last => exact (standsOn_of_mem_tokenize (Array.mem_of_back? hlast)).2

/-- No rule of the grammar is a rule for faults. -/
theorem rules_without_faults :
    (rules.all fun rule => rule.1 != .error && rule.1 != .missing) = true := by
  decide +kernel

theorem isFault_eq_false_of_shown? {tree : Tree} {number : Nat} {construct : Construct}
    (htree : tree.construct? = some construct) (h : shown? number = some construct) :
    tree.isFault = false := by
  obtain ⟨hrule, -⟩ := Option.filter_eq_some_iff.1 h
  obtain ⟨rule, hmem, rfl⟩ := Option.map_eq_some_iff.1 hrule
  have hother := List.all_eq_true.1 rules_without_faults rule (List.mem_of_getElem? hmem)
  rw [isFault, htree]
  simpa [bne_iff_ne] using hother

/-- What the grammar reads has no fault. -/
theorem hasFault_ofSource_of_ok {text : String}
    {derivations : List (Derivation Token Construct Role)}
    (h : grammar.read readings (tokenize text).tokens = .ok derivations) :
    (ofSource text).hasFault = false := by
  obtain ⟨item, -, -, hfills⟩ := Grammar.fills_of_read grammar_proper h
  have hall := Derivation.allNodesOfAll_iff.2 (hfills.allNodes
    (fun construct _ => ∃ number, shown? number = some construct) (by
      intro number construct inner stop children hnode _ _
      exact ⟨number, by rw [← node?_grammar, hnode]⟩))
  rw [ofSource, h, hasFault, anyHasFault_eq_any_nodes]
  refine Bool.or_eq_false_iff.2 ⟨rfl, List.any_eq_false.2 fun node hnode => ?_⟩
  cases hconstruct : node.construct? with
  | none =>
      rw [isFault, hconstruct]
      exact Bool.false_ne_true
  | some construct =>
      obtain ⟨-, ⟨number, hshown⟩, -⟩ :=
        exists_of_mem_nodesOfAll derivations hall node hnode construct hconstruct
      rw [isFault_eq_false_of_shown? hconstruct hshown]
      exact Bool.false_ne_true

theorem nodesOfAll_append (first second : List Tree) :
    nodesOfAll (first ++ second) = nodesOfAll first ++ nodesOfAll second := by
  induction first with
  | nil => rfl
  | cons tree rest ih =>
      rw [List.cons_append, nodesOfAll, nodesOfAll, ih, List.append_assoc]

theorem nodesOfAll_map_leaf (tokens : List Token) :
    nodesOfAll (tokens.map (Tree.leaf none)) = tokens.map (Tree.leaf none) := by
  induction tokens with
  | nil => rfl
  | cons token tokens ih => rw [List.map_cons, nodesOfAll, ih]; rfl

theorem isFault_fault (source : TokenizedSource) (number : Nat) :
    (fault source number).isFault = true := by
  rw [fault]
  split <;> rfl

theorem find?_nodes_of_isFault {tree : Tree} (h : tree.isFault = true) :
    tree.nodes.find? isFault = some tree := by
  cases tree with
  | leaf role token => cases h
  | node role construct span children => exact List.find?_cons_of_pos h

/-- Where the grammar stops reading, there is the first fault. -/
theorem find?_nodes_ofSource {text : String} {number : Nat}
    (h : grammar.read readings (tokenize text).tokens = .error number) :
    (ofSource text).nodes.find? isFault = some (fault (tokenize text) number) := by
  have hleaves : ∀ tokens : List Token,
      (tokens.map (Tree.leaf none)).find? isFault = none := by
    intro tokens
    rw [List.find?_map, Option.map_eq_none_iff, List.find?_eq_none]
    exact fun _ _ => Bool.false_ne_true
  rw [ofSource, h, nodes, nodesOfAll_append, nodesOfAll_map_leaf,
    List.find?_cons_of_neg Bool.false_ne_true, List.find?_append, hleaves,
    Option.none_or, nodesOfAll, nodesOfAll, List.append_nil,
    find?_nodes_of_isFault (isFault_fault _ number)]

/-- The first fault of source text stands on the line that it names. -/
theorem exists_fault_ofSource {text : String} (h : (ofSource text).hasFault = true) :
    ∃ fault, (ofSource text).nodes.find? isFault = some fault ∧
      StandsOn text fault.span.startLine fault.text := by
  cases hread : grammar.read readings (tokenize text).tokens with
  | ok derivations =>
      rw [hasFault_ofSource_of_ok hread] at h
      cases h
  | error number =>
      exact ⟨_, find?_nodes_ofSource hread, standsOn_fault text number⟩

/-- The line of a fault that is reported is the line of the first one. In every
tree the search with pruning finds what the full search in pre-order finds, which
is something where there is a fault. So source text is reported by the line of its
first fault whatever line a search without success would fall back on, and that is
the line, counted from one, on which the text of the fault stands. -/
theorem firstFault_reported :
    (∀ tree : Tree,
      (tree.hasFault = true ↔ ∃ node ∈ tree.nodes, node.isFault = true) ∧
      tree.firstFaultLine?.isSome = tree.hasFault ∧
      tree.firstFaultLine? =
        (tree.nodes.find? isFault).map fun fault => fault.span.startLine) ∧
    ∀ path text : String,
      (∀ fallback : Nat, parse path text =
        if (ofSource text).hasFault then
          .error ⟨path, (ofSource text).firstFaultLine?.getD fallback⟩
        else .ok ((ofSource text).toUnit path)) ∧
      ((ofSource text).hasFault = true ↔ ∃ fault : Tree,
        (ofSource text).nodes.find? isFault = some fault ∧
          parse path text = .error ⟨path, fault.span.startLine⟩ ∧
          StandsOn text fault.span.startLine fault.text) := by
  refine ⟨fun tree => ⟨?_, isSome_firstFaultLine? tree, firstFaultLine?_eq_find? tree⟩,
    fun path text => ⟨fun fallback => ?_, fun hfault => ?_, ?_⟩⟩
  · rw [hasFault_eq_any, List.any_eq_true]
  · cases hfault : (ofSource text).hasFault with
    | false => simp [parse, hfault]
    | true =>
        have hsome := (isSome_firstFaultLine? (ofSource text)).trans hfault
        obtain ⟨line, hline⟩ := Option.isSome_iff_exists.1 hsome
        simp [parse, hfault, hline]
  · obtain ⟨fault, hfirst, hstands⟩ := exists_fault_ofSource hfault
    refine ⟨fault, hfirst, ?_, hstands⟩
    rw [parse, if_pos hfault, firstFaultLine?_eq_find?, hfirst, Option.map_some,
      Option.getD_some]
  · rintro ⟨fault, hfirst, -, -⟩
    rw [hasFault_eq_any, ← List.isSome_find?, hfirst, Option.isSome_some]

-- The first fault in pre-order is neither the one nearest to the root nor the first
-- child with a fault.
example :
    (Tree.node none .program ⟨1, 9⟩
      [.node none .block ⟨1, 1⟩ [],
        .node none .classBody ⟨2, 8⟩
          [.node none .block ⟨3, 4⟩ [.node none .missing ⟨4, 4⟩ []]],
        .node none .error ⟨9, 9⟩ []]).firstFaultLine? = some 4 := by
  decide

end Tree

end JavaSurvey.Java
