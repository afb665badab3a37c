import JavaSurvey.Proofs.CallPairs
import JavaSurvey.Proofs.GraphGrowth
import JavaSurvey.Proofs.LenientPasses

/-!
# Call graphs never miss a name

A graph refuses an edge without a name at one of its ends. Edges come from the
methods and invocations of analysed files, and these have the names that the
parser found. So the refusal, which the graph has to be ready for, is never met
by a project: not for a file alone, whatever graph it is added to, and not in a
pass over all files.

## Main results

* `Tree.named_toUnit`: lowering keeps the names of methods and invocations.
* `exists_of_passOver_error`: what a pass can fail with.
* `names_for_call_graphs`: files and projects against the graph's refusal.
-/

namespace JavaSurvey.Syntax

/-- Every method and every invocation of a file has a name. -/
def SourceUnit.Named (unit : SourceUnit) : Prop :=
  ∀ node ∈ unit.root.preorder, node.kind = .method ∨ node.kind = .invocation →
    node.name ≠ ""

mutual

theorem Node.preorder_subset_preorder : (root : Node) → ∀ node ∈ root.preorder,
    node.preorder ⊆ root.preorder
  | ⟨_, _, _, _, children⟩ => by
      intro node hnode
      rcases List.mem_cons.1 hnode with rfl | hbelow
      · exact List.Subset.refl _
      · exact List.Subset.trans (Node.preorder_subset_preorderAll children node hbelow)
          (List.subset_cons_self _ _)

theorem Node.preorder_subset_preorderAll : (nodes : List Node) →
    ∀ node ∈ Node.preorderAll nodes, node.preorder ⊆ Node.preorderAll nodes
  | [] => by
      intro node hnode
      cases hnode
  | first :: rest => by
      intro node hnode
      rcases List.mem_append.1 hnode with hnode | hnode
      · exact List.Subset.trans (Node.preorder_subset_preorder first node hnode)
          (List.subset_append_left _ _)
      · exact List.Subset.trans (Node.preorder_subset_preorderAll rest node hnode)
          (List.subset_append_right _ _)

end

end JavaSurvey.Syntax

namespace JavaSurvey.Java

open Syntax (Node)

namespace Tree

/-- No method, constructor or call below a tree has a name without text. -/
def NamesHaveText (tree : Tree) : Prop :=
  ∀ node ∈ tree.descendants, node.construct?.any goesByName = true →
    node.nameText? ≠ some ""

theorem Named.namesHaveText {tree : Tree} (h : tree.Named) : tree.NamesHaveText := by
  intro node hnode hgoes htext
  refine h node hnode hgoes ?_
  rw [name, htext]
  rfl

/-- A node of a kind that arises from named trees is named as its tree is. -/
theorem nameText?_of_retain? {parent : Option Construct} {tree : Tree} {kept : Node}
    (h : retain? parent tree = some kept)
    (hkind : kept.kind = .method ∨ kept.kind = .invocation) :
    tree.construct?.any goesByName = true ∧ tree.nameText? = some kept.name := by
  have hnamed : ∀ {kind accepts parameters}, Arises kind accepts parameters →
      accepts tree = true → tree.nameText? = some kept.name := by
    intro kind accepts parameters harises haccepts
    rw [harises.retained parent tree haccepts] at h
    obtain ⟨name, hname, rfl⟩ := Option.map_eq_some_iff.1 h
    exact hname
  obtain ⟨hmethod, hinvocation⟩ := accepted_of_retain? h
  rcases hkind with hkind | hkind
  · have hdeclaration := hmethod hkind
    exact ⟨goesByName_of_isDeclaration hdeclaration, hnamed arises_method hdeclaration⟩
  · have hcall := hinvocation hkind
    exact ⟨goesByName_of_isCall hcall, hnamed arises_invocation hcall⟩

/-- Lowering keeps names: no method or invocation has lost its own. -/
theorem named_toUnit (path : String) {tree : Tree} (h : tree.NamesHaveText) :
    (tree.toUnit path).Named := by
  intro node hnode hkind hempty
  rw [Node.preorder_eq] at hnode
  rcases List.mem_cons.1 hnode with rfl | hbelow
  · rcases hkind with hkind | hkind <;> cases hkind
  · rw [toUnit, preorderAll_lowerAll_eq] at hbelow
    obtain ⟨occurrence, hoccurrence, hkept⟩ := List.mem_filterMap.1 hbelow
    obtain ⟨kept, hretain, rfl⟩ := Option.map_eq_some_iff.1 hkept
    have hmem : occurrence.2 ∈ tree.descendants := by
      rw [descendants, ← map_snd_withParentsAll tree.construct?]
      exact List.mem_map_of_mem hoccurrence
    obtain ⟨hgoes, htext⟩ := nameText?_of_retain? hretain hkind
    exact h occurrence.2 hmem hgoes (htext.trans (congrArg some hempty))

end Tree

theorem named_unit_of_parse {path text : String} {unit : Syntax.SourceUnit}
    (h : parse path text = .ok unit) : unit.Named := by
  obtain ⟨rfl, hnamed⟩ := named_of_parse h
  exact Tree.named_toUnit path hnamed.namesHaveText

end JavaSurvey.Java

namespace JavaSurvey.CallGraph

open Syntax (SourceUnit Node)

/-- The calls of a file have names at both ends, if its methods and invocations
have names. -/
theorem named_callEdges {unit : SourceUnit} (h : unit.Named) :
    ∀ edge ∈ callEdges unit, edge.Named := by
  intro edge hedge
  have hends : edge.ends ∈ Java.Tree.pairNames unit := by
    rw [Java.Tree.pairNames, ← map_ends_callEdges]
    exact List.mem_map_of_mem hedge
  rw [Java.Tree.pairNames_eq] at hends
  obtain ⟨method, hmethod, hends⟩ := List.mem_flatMap.1 hends
  obtain ⟨call, hcall, hends⟩ := List.mem_map.1 hends
  obtain ⟨hmethod, hmethodKind⟩ := List.mem_filter.1 hmethod
  obtain ⟨hcall, hcallKind⟩ := List.mem_filter.1 hcall
  have hbelow := Node.preorder_subset_preorder unit.root method hmethod hcall
  obtain ⟨caller, callee⟩ := edge
  cases hends
  exact ⟨h method hmethod (Or.inl (eq_of_beq hmethodKind)),
    h call hbelow (Or.inr (eq_of_beq hcallKind))⟩

/-- A file whose methods and invocations have names is added to any graph. -/
theorem addUnit_ok_of_named {unit : SourceUnit} (h : unit.Named) (graph : Graph) :
    ∃ added, (graph.addUnit unit).2 = .ok added :=
  (addsUnit graph unit).succeeds_iff.2 (named_callEdges h)

end JavaSurvey.CallGraph

namespace JavaSurvey.Analysis

open Syntax (SourceUnit)

variable {σ : Type}

/-- A pass fails with the failure of an analysis or of the consumer. -/
theorem exists_of_passOver_error {failFast : Bool}
    {analyze : String → Except Failure SourceUnit} {consume : Consumer σ}
    {paths : List String} {state : σ} {summary : Summary} {failure : Failure}
    (h : (passOver failFast analyze consume paths state summary).outcome =
      .error failure) :
    (∃ path, analyze path = .error failure) ∨
      ∃ path unit state, analyze path = .ok unit ∧
        (consume state unit).2 = .error failure := by
  induction paths generalizing state summary with
  | nil => cases h
  | cons path paths ih =>
      cases hpath : analyze path with
      | error other =>
          simp only [passOver, hpath] at h
          split at h
          next =>
            cases h
            exact Or.inl ⟨path, hpath⟩
          next => exact ih h
      | ok unit =>
          simp only [passOver, hpath] at h
          split at h
          next hconsume =>
            cases h
            exact Or.inr ⟨path, unit, state, hpath, congrArg Prod.snd hconsume⟩
          next => exact ih h

/-- A file is analysed by parsing some text, and a failure to analyse it is about
the file or its text. -/
theorem analyzeFile_cases (parsing : Config.ParsingSettings) (files : Files.Store)
    (path : String) :
    (∃ error, analyzeFile parsing files path = .error (.file error)) ∨
      (∃ fault, analyzeFile parsing files path = .error (.source fault)) ∨
      ∃ text unit, Java.parse path text = .ok unit ∧
        analyzeFile parsing files path = .ok unit := by
  simp only [analyzeFile, bind, Except.bind]
  cases files.read path with
  | error error => exact Or.inl ⟨error, rfl⟩
  | ok content =>
      by_cases hsize : parsing.maxFileSize < content.length
      · refine Or.inr (Or.inl ⟨.tooLarge path, ?_⟩)
        simp [hsize, Except.mapError]
      · cases hdecode : Text.Utf8.decode content with
        | error fault =>
            refine Or.inr (Or.inl ⟨.notText path fault, ?_⟩)
            simp [hsize, hdecode, Except.mapError]
        | ok text =>
            cases hparse : Java.parse path text with
            | error fault =>
                refine Or.inr (Or.inl ⟨.malformed fault, ?_⟩)
                simp [hsize, hdecode, hparse, Except.mapError]
            | ok unit =>
                refine Or.inr (Or.inr ⟨text, unit, hparse, ?_⟩)
                simp [hsize, hdecode, hparse, Except.mapError]

theorem discover_ne_graph (marker : String) (files : Files.Store)
    (directory reason : String) :
    discover marker files directory ≠ .error (.graph reason) := by
  rw [discover]
  cases files.discover marker directory <;> (intro h; cases h)

theorem analyzeFile_ne_graph (parsing : Config.ParsingSettings)
    (files : Files.Store) (path reason : String) :
    analyzeFile parsing files path ≠ .error (.graph reason) := by
  rcases analyzeFile_cases parsing files path with
    ⟨error, h⟩ | ⟨fault, h⟩ | ⟨text, unit, -, h⟩ <;>
    (rw [h]; intro hgraph; cases hgraph)

/-- A file that was analysed can be taken up into any graph. -/
theorem graphUnit_ok {parsing : Config.ParsingSettings} {files : Files.Store}
    {path : String} {unit : SourceUnit} (h : analyzeFile parsing files path = .ok unit)
    (graph : CallGraph.Graph) : (graphUnit graph unit).2 = .ok () := by
  rcases analyzeFile_cases parsing files path with
    ⟨error, herror⟩ | ⟨fault, hfault⟩ | ⟨text, read, hparse, hread⟩
  · cases h.symm.trans herror
  · cases h.symm.trans hfault
  · cases h.symm.trans hread
    obtain ⟨added, hadded⟩ :=
      CallGraph.addUnit_ok_of_named (Java.named_unit_of_parse hparse) graph
    rw [graphUnit]
    dsimp only
    rw [hadded]

/-- A pass that puts a graph together never fails because of the graph. -/
theorem passBelow_ne_graph (settings : Config.Settings) (files : Files.Store)
    (directory reason : String) :
    (passBelow settings files directory graphUnit .empty).2 ≠
      .error (.graph reason) := by
  intro h
  unfold passBelow at h
  cases hdiscover : discover settings.project.fileMarker files directory with
  | error failure =>
      rw [hdiscover] at h
      cases h
      exact discover_ne_graph _ _ _ _ hdiscover
  | ok paths =>
      rw [hdiscover] at h
      rcases exists_of_passOver_error h with
        ⟨path, hpath⟩ | ⟨path, unit, graph, hpath, hunit⟩
      · exact analyzeFile_ne_graph _ _ _ _ hpath
      · cases (graphUnit_ok hpath graph).symm.trans hunit

/-! ## Main result -/

/-- Names are never missing where a call graph needs them. Lowering keeps the
names of methods and invocations, a source file that is read has them and so can
be added to any graph, and the call graph of a project never fails for want of a
name. -/
theorem names_for_call_graphs :
    (∀ path (tree : Java.Tree), tree.NamesHaveText → (tree.toUnit path).Named) ∧
    (∀ path text unit, Java.parse path text = .ok unit → unit.Named) ∧
    (∀ unit : SourceUnit, unit.Named → ∀ graph : CallGraph.Graph,
      ∃ added, (graph.addUnit unit).2 = .ok added) ∧
    ∀ (analyzer : Analyzer) (project : Project) (world : World) (reason : String),
      outcome (analyzer.buildCallGraph project) world ≠ .error (.graph reason) := by
  refine ⟨fun path tree h => Java.Tree.named_toUnit path h,
    fun path text unit => Java.named_unit_of_parse,
    fun unit h graph => CallGraph.addUnit_ok_of_named h graph, ?_⟩
  intro analyzer project world reason h
  rw [outcome_buildCallGraph] at h
  dsimp only at h
  cases hrun : (passBelow analyzer.settings world.files project.sourceDir graphUnit
      .empty).2 with
  | error failure =>
      rw [hrun] at h
      cases h
      exact passBelow_ne_graph _ _ _ _ hrun
  | ok summary =>
      rw [hrun] at h
      cases h

/-- The file of a record with a compact constructor has its names, and goes into
a graph that is not empty. -/
theorem names_for_call_graphs_record :
    Java.Tree.recordFile.NamesHaveText ∧
      (Java.Tree.recordFile.toUnit "P.java").Named ∧
      ∃ added, (CallGraph.Graph.addUnit ⟨.ofList [⟨"run", "stop"⟩]⟩
        (Java.Tree.recordFile.toUnit "P.java")).2 = .ok added := by
  have hnamed : Java.Tree.recordFile.Named := by decide
  obtain ⟨hlowered, -, hadded, -⟩ := names_for_call_graphs
  have hunit := hlowered "P.java" Java.Tree.recordFile hnamed.namesHaveText
  exact ⟨hnamed.namesHaveText, hunit, hadded _ hunit _⟩

end JavaSurvey.Analysis
