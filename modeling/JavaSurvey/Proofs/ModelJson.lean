import JavaSurvey.CallGraph.Json
import JavaSurvey.Proofs.JsonText
import JavaSurvey.Syntax.Json
import JavaSurvey.Syntax.Walk
import Mathlib.Data.Nat.Init

/-!
# The model through JSON and back

Spans, kinds, edges, call nodes, sizes of graphs and whole trees are written as
JSON and read again. What is read back is what was written, provided that its
numbers have 64 bits and that the text is not nested more deeply than a reader
allows. A reader accepts other spellings of a value as well, but nothing beyond
these bounds, so whatever it accepts can be written and read again.

A tree opens two levels for each of its own: the object of a node and the array
of its children. The span of a node is as deep as its children's array, so a leaf
needs two levels as well.

## Main results

* `Value.toNat?_ofNat`, `Value.le_of_toNat?`: numbers of 64 bits.
* `Node.nesting_toJson_le_iff`: how deeply a tree is nested as JSON.
* `Node.ofJson?_toJson`, `Node.fits_of_ofJson?`: which trees can be read back.
* `roundTrips_model`: all types.
-/

namespace JavaSurvey.Json

open Text (maxNatural)

/-! ## Nesting -/

mutual

/-- How many arrays and objects are open at once at most. -/
def Value.nesting : Value → Nat
  | .array items => 1 + Value.nestingOfItems items
  | .object members => 1 + Value.nestingOfMembers members
  | _ => 0

/-- The nesting of the deepest item. -/
def Value.nestingOfItems : List Value → Nat
  | [] => 0
  | item :: rest => max item.nesting (Value.nestingOfItems rest)

/-- The nesting of the deepest member. -/
def Value.nestingOfMembers : List (String × Value) → Nat
  | [] => 0
  | (_, value) :: rest => max value.nesting (Value.nestingOfMembers rest)

end

theorem Value.nestingOfItems_le_iff {items : List Value} {depth : Nat} :
    Value.nestingOfItems items ≤ depth ↔ ∀ item ∈ items, item.nesting ≤ depth := by
  induction items with
  | nil => simp [Value.nestingOfItems]
  | cons item items ih =>
      rw [Value.nestingOfItems, Nat.max_le, ih, List.forall_mem_cons]

/-! ## Numbers -/

/-- A number of 64 bits is read back. -/
theorem Value.toNat?_ofNat {n : Nat} (h : n ≤ maxNatural) :
    (Value.ofNat n).toNat? = some n := by
  simp [Value.ofNat, Value.toNat?, Text.digitsValue_toDigits, all_isDigit_toDigits,
    isEmpty_toDigits, h]

theorem Value.le_of_toNat? {value : Value} {n : Nat} (h : value.toNat? = some n) :
    n ≤ maxNatural := by
  unfold Value.toNat? at h
  split at h
  next literal =>
    dsimp only at h
    split at h
    next hbounds =>
      cases h
      simp only [Bool.and_eq_true, decide_eq_true_eq] at hbounds
      exact hbounds.2
    next => cases h
  next => cases h

theorem readable_ofNat (n : Nat) : (Value.ofNat n).Readable :=
  .number (numeral_ofNat n)

/-! ## Types with a JSON form -/

/-- What a text stands for, read as a value of some type. -/
def decode? {α : Type} (ofJson? : Nat → Value → Option α) (text : String) :
    Option α :=
  (read? text).bind (ofJson? maxDepth)

/-- Values of a type are read back from their text exactly if they fit, and all
that is read from any text fits. -/
structure RoundTrips {α : Type} (toJson : α → Value)
    (ofJson? : Nat → Value → Option α) (Fits : α → Prop) : Prop where
  decodes : ∀ a, Fits a → decode? ofJson? (toJson a).compact = some a
  fits : ∀ text a, decode? ofJson? text = some a → Fits a
  again : ∀ text a, decode? ofJson? text = some a →
    decode? ofJson? (toJson a).compact = some a

theorem roundTrips_of {α : Type} {toJson : α → Value}
    {ofJson? : Nat → Value → Option α} {Fits : α → Prop}
    (readable : ∀ a, (toJson a).Readable)
    (ofJson?_toJson : ∀ a, Fits a → ofJson? maxDepth (toJson a) = some a)
    (fits_of_ofJson? : ∀ value a, ofJson? maxDepth value = some a → Fits a) :
    RoundTrips toJson ofJson? Fits := by
  have hdecodes : ∀ a, Fits a → decode? ofJson? (toJson a).compact = some a := by
    intro a ha
    rw [decode?, read?_compact (readable a), Option.bind_some]
    exact ofJson?_toJson a ha
  have hfits : ∀ text a, decode? ofJson? text = some a → Fits a := by
    intro text a h
    obtain ⟨value, _, hvalue⟩ := Option.bind_eq_some_iff.1 h
    exact fits_of_ofJson? value a hvalue
  exact ⟨hdecodes, hfits, fun text a h => hdecodes a (hfits text a h)⟩

end JavaSurvey.Json

namespace JavaSurvey.Syntax

open Json (Value readable_ofNat)
open Text (maxNatural)

/-! ## Kinds and spans -/

theorem NodeKind.ofName?_name (kind : NodeKind) :
    NodeKind.ofName? kind.name = some kind := by
  cases kind <;> rfl

theorem NodeKind.ofJson?_toJson (depth : Nat) (kind : NodeKind) :
    NodeKind.ofJson? depth kind.toJson = some kind :=
  NodeKind.ofName?_name kind

/-- A span whose lines have 64 bits. -/
def Span.Fits (span : Span) : Prop :=
  span.startLine ≤ maxNatural ∧ span.endLine ≤ maxNatural

theorem Span.readable_toJson (span : Span) : span.toJson.Readable := by
  apply Value.Readable.object
  simp only [List.forall_mem_cons, readable_ofNat, true_and]
  intro member hmember
  cases hmember

theorem Span.nesting_toJson (span : Span) : span.toJson.nesting = 1 := rfl

theorem Span.ofJson?_toJson {span : Span} (h : span.Fits) {depth : Nat}
    (hdepth : depth ≠ 0) : Span.ofJson? depth span.toJson = some span := by
  have hfields : span.toJson.fields? ["start_line", "end_line"] =
      some [.ofNat span.startLine, .ofNat span.endLine] := rfl
  rw [Span.ofJson?, if_neg hdepth, hfields]
  simp [Value.toNat?_ofNat h.1, Value.toNat?_ofNat h.2]

theorem Span.fits_of_ofJson? {depth : Nat} {value : Value} {span : Span}
    (h : Span.ofJson? depth value = some span) : span.Fits := by
  unfold Span.ofJson? at h
  split at h
  next => cases h
  next =>
    split at h
    next first last _ =>
      obtain ⟨start, hstart, h⟩ := Option.bind_eq_some_iff.1 h
      obtain ⟨stop, hstop, h⟩ := Option.bind_eq_some_iff.1 h
      cases h
      exact ⟨Value.le_of_toNat? hstart, Value.le_of_toNat? hstop⟩
    next => cases h

/-! ## Trees -/

theorem Node.allToJson_eq_map (nodes : List Node) :
    Node.allToJson nodes = nodes.map Node.toJson := by
  induction nodes with
  | nil => rfl
  | cons node nodes ih => rw [Node.allToJson, ih, List.map_cons]

/-- What holds of a node if it holds of all its children holds of all nodes. -/
theorem Node.induction {motive : Node → Prop}
    (node : ∀ node : Node, (∀ child ∈ node.children, motive child) → motive node)
    (root : Node) : motive root := by
  induction hsize : sizeOf root using Nat.strongRecOn generalizing root with
  | ind size ih =>
      refine node root fun child hchild => ih (sizeOf child) ?_ child rfl
      cases root with
      | mk kind name span parameterCount children =>
          have hlt : sizeOf child < sizeOf children := List.sizeOf_lt_of_mem hchild
          rw [Node.mk.sizeOf_spec] at hsize
          omega

theorem Node.toJson_eq (node : Node) :
    node.toJson = .object
      [("kind", node.kind.toJson), ("name", .string node.name),
        ("span", node.span.toJson),
        ("parameter_count", .ofNat node.parameterCount),
        ("children", .array (node.children.map Node.toJson))] := by
  cases node
  rw [Node.toJson, Node.allToJson_eq_map]

theorem Node.readable_toJson (node : Node) : node.toJson.Readable := by
  induction node using Node.induction with
  | node node ih =>
      rw [Node.toJson_eq]
      apply Value.Readable.object
      simp only [List.forall_mem_cons, readable_ofNat, Span.readable_toJson,
        true_and]
      refine ⟨.string _, .string _, .array ?_, by simp⟩
      intro item hitem
      obtain ⟨child, hchild, rfl⟩ := List.mem_map.1 hitem
      exact ih child hchild

/-- A node opens two levels, and the levels of its children. -/
theorem Node.nesting_toJson (node : Node) :
    node.toJson.nesting =
      2 + Value.nestingOfItems (node.children.map Node.toJson) := by
  have hscalars : node.kind.toJson.nesting = 0 ∧
      (Value.ofNat node.parameterCount).nesting = 0 := ⟨rfl, rfl⟩
  rw [Node.toJson_eq]
  simp only [Value.nesting, Value.nestingOfMembers, Span.nesting_toJson, hscalars]
  omega

theorem Node.nesting_toJson_le_iff {node : Node} {depth : Nat} :
    node.toJson.nesting ≤ depth + 2 ↔
      ∀ child ∈ node.children, child.toJson.nesting ≤ depth := by
  have hitems : 2 + Value.nestingOfItems (node.children.map Node.toJson) ≤
        depth + 2 ↔
      Value.nestingOfItems (node.children.map Node.toJson) ≤ depth := by
    omega
  rw [Node.nesting_toJson, hitems, Value.nestingOfItems_le_iff,
    List.forall_mem_map]

/-- Numbers of 64 bits at a node and everywhere below it. -/
def Node.NumbersFit (root : Node) : Prop :=
  ∀ node ∈ root.preorder, node.span.Fits ∧ node.parameterCount ≤ maxNatural

/-- A tree that JSON can hold: its numbers have 64 bits, and it is not nested too
deeply. -/
def Node.Fits (depth : Nat) (root : Node) : Prop :=
  root.NumbersFit ∧ root.toJson.nesting ≤ depth

theorem Node.mem_preorderAll {node : Node} {nodes : List Node} :
    node ∈ Node.preorderAll nodes ↔ ∃ root ∈ nodes, node ∈ root.preorder := by
  induction nodes with
  | nil => simp [Node.preorderAll]
  | cons first nodes ih => simp [Node.preorderAll, ih]

theorem Node.numbersFit_iff {root : Node} :
    root.NumbersFit ↔
      (root.span.Fits ∧ root.parameterCount ≤ maxNatural) ∧
        ∀ child ∈ root.children, child.NumbersFit := by
  have hpreorder : root.preorder = root :: Node.preorderAll root.children := by
    cases root
    rw [Node.preorder]
  simp only [Node.NumbersFit, hpreorder, List.forall_mem_cons,
    Node.mem_preorderAll, forall_exists_index, and_imp]
  refine and_congr_right fun _ => ⟨?_, ?_⟩
  · intro h child hchild node hnode
    exact h node child hchild hnode
  · intro h node child hchild hnode
    exact h child hchild node hnode

theorem Node.fits_iff {root : Node} {depth : Nat} :
    root.Fits (depth + 2) ↔
      (root.span.Fits ∧ root.parameterCount ≤ maxNatural) ∧
        ∀ child ∈ root.children, child.Fits depth := by
  rw [Node.Fits, Node.numbersFit_iff, Node.nesting_toJson_le_iff, and_assoc]
  refine and_congr_right fun _ => ⟨?_, ?_⟩
  · intro h child hchild
    exact ⟨h.1 child hchild, h.2 child hchild⟩
  · intro h
    exact ⟨fun child hchild => (h child hchild).1,
      fun child hchild => (h child hchild).2⟩

/-- Readings of items, one by one. -/
theorem mapM_map_of_forall {α : Type} {read : Value → Option α}
    {write : α → Value} {values : List α}
    (h : ∀ value ∈ values, read (write value) = some value) :
    (values.map write).mapM read = some values := by
  induction values with
  | nil => rfl
  | cons value values ih =>
      rw [List.forall_mem_cons] at h
      rw [List.map_cons, List.mapM_cons, h.1, ih h.2]
      rfl

theorem exists_of_mem_of_mapM {α : Type} {read : Value → Option α}
    {items : List Value} {values : List α} (h : items.mapM read = some values)
    {value : α} (hvalue : value ∈ values) : ∃ item, read item = some value := by
  induction items generalizing values with
  | nil =>
      cases h
      cases hvalue
  | cons item items ih =>
      rw [List.mapM_cons] at h
      obtain ⟨first, hfirst, h⟩ := Option.bind_eq_some_iff.1 h
      obtain ⟨others, hothers, h⟩ := Option.bind_eq_some_iff.1 h
      cases h
      rcases List.mem_cons.1 hvalue with rfl | hother
      · exact ⟨item, hfirst⟩
      · exact ih hothers hother

/-- A tree that fits is read back. -/
theorem Node.ofJson?_toJson {root : Node} {depth : Nat} (h : root.Fits depth) :
    Node.ofJson? depth root.toJson = some root := by
  induction root using Node.induction generalizing depth with
  | node node ih =>
      obtain ⟨depth, rfl⟩ : ∃ less, depth = less + 2 := by
        have hnesting := h.2
        rw [Node.nesting_toJson] at hnesting
        exact ⟨depth - 2, by omega⟩
      obtain ⟨⟨hspan, hcount⟩, hchildren⟩ := Node.fits_iff.1 h
      have hfields : node.toJson.fields?
          ["kind", "name", "span", "parameter_count", "children"] =
            some [node.kind.toJson, .string node.name, node.span.toJson,
              .ofNat node.parameterCount,
              .array (node.children.map Node.toJson)] := by
        rw [Node.toJson_eq]
        rfl
      have hread : (node.children.map Node.toJson).mapM (Node.ofJson? depth) =
          some node.children := by
        apply mapM_map_of_forall
        intro child hchild
        exact ih child hchild (hchildren child hchild)
      rw [Node.ofJson?, hfields]
      simp only [NodeKind.ofJson?_toJson, Value.toString?,
        Span.ofJson?_toJson hspan (Nat.succ_ne_zero depth),
        Value.toNat?_ofNat hcount, items?, hread, Option.bind_eq_bind,
        Option.bind_some]
      cases node
      rfl

/-- A tree that was read fits. -/
theorem Node.fits_of_ofJson? {depth : Nat} {value : Value} {root : Node}
    (h : Node.ofJson? depth value = some root) : root.Fits depth := by
  induction depth using Nat.twoStepInduction generalizing value root with
  | zero => cases h
  | one => cases h
  | more depth ih _ =>
      rw [Node.ofJson?] at h
      split at h
      next kind name span parameterCount children _ =>
        obtain ⟨kind, _, h⟩ := Option.bind_eq_some_iff.1 h
        obtain ⟨name, _, h⟩ := Option.bind_eq_some_iff.1 h
        obtain ⟨span, hspan, h⟩ := Option.bind_eq_some_iff.1 h
        obtain ⟨count, hcount, h⟩ := Option.bind_eq_some_iff.1 h
        obtain ⟨items, _, h⟩ := Option.bind_eq_some_iff.1 h
        obtain ⟨children, hchildren, h⟩ := Option.bind_eq_some_iff.1 h
        cases h
        refine Node.fits_iff.2 ⟨⟨Span.fits_of_ofJson? hspan,
          Value.le_of_toNat? hcount⟩, ?_⟩
        intro child hchild
        obtain ⟨item, hitem⟩ := exists_of_mem_of_mapM hchildren hchild
        exact ih hitem
      next => cases h

end JavaSurvey.Syntax

namespace JavaSurvey.CallGraph

open Json (Value readable_ofNat)
open Text (maxNatural)

/-! ## Call graphs -/

theorem Edge.readable_toJson (edge : Edge) : edge.toJson.Readable := by
  apply Value.Readable.object
  simp only [List.forall_mem_cons]
  exact ⟨.string _, .string _, by simp⟩

theorem Edge.ofJson?_toJson (edge : Edge) {depth : Nat} (hdepth : depth ≠ 0) :
    Edge.ofJson? depth edge.toJson = some edge := by
  have hfields : edge.toJson.fields? ["caller", "callee"] =
      some [.string edge.caller, .string edge.callee] := rfl
  rw [Edge.ofJson?, if_neg hdepth, hfields]
  rfl

theorem NodeClass.ofJson?_toJson (depth : Nat) (cls : NodeClass) :
    NodeClass.ofJson? depth cls.toJson = some cls := by
  cases cls <;> rfl

theorem CallNode.readable_toJson (node : CallNode) : node.toJson.Readable := by
  apply Value.Readable.object
  simp only [List.forall_mem_cons]
  exact ⟨.string _, .string _, by simp⟩

theorem CallNode.ofJson?_toJson (depth : Nat) (node : CallNode) :
    CallNode.ofJson? (depth + 1) node.toJson = some node := by
  have hfields : node.toJson.fields? ["name", "class"] =
      some [.string node.name, node.cls.toJson] := rfl
  rw [CallNode.ofJson?, hfields]
  simp only [Value.toString?, NodeClass.ofJson?_toJson, Option.bind_eq_bind,
    Option.bind_some]

/-- Sizes of 64 bits. -/
def GraphStats.Fits (stats : GraphStats) : Prop :=
  ∀ n ∈ [stats.totalCalls, stats.totalNodes, stats.classLike, stats.methodLike,
    stats.selfCalls], n ≤ maxNatural

theorem GraphStats.readable_toJson (stats : GraphStats) :
    stats.toJson.Readable := by
  apply Value.Readable.object
  simp only [List.forall_mem_cons, readable_ofNat, true_and]
  intro member hmember
  cases hmember

theorem GraphStats.ofJson?_toJson {stats : GraphStats} (h : stats.Fits)
    {depth : Nat} (hdepth : depth ≠ 0) :
    GraphStats.ofJson? depth stats.toJson = some stats := by
  have hfields : stats.toJson.fields?
      ["total_calls", "total_nodes", "class_like", "method_like", "self_calls"] =
        some [.ofNat stats.totalCalls, .ofNat stats.totalNodes,
          .ofNat stats.classLike, .ofNat stats.methodLike,
          .ofNat stats.selfCalls] := rfl
  have hread : ∀ n ∈ [stats.totalCalls, stats.totalNodes, stats.classLike,
      stats.methodLike, stats.selfCalls], (Value.ofNat n).toNat? = some n :=
    fun n hn => Value.toNat?_ofNat (h n hn)
  simp only [List.forall_mem_cons] at hread
  obtain ⟨hcalls, hnodes, hclassLike, hmethodLike, hselfCalls, -⟩ := hread
  rw [GraphStats.ofJson?, if_neg hdepth, hfields]
  simp only [hcalls, hnodes, hclassLike, hmethodLike, hselfCalls,
    Option.bind_eq_bind, Option.bind_some]

theorem GraphStats.fits_of_ofJson? {depth : Nat} {value : Value}
    {stats : GraphStats} (h : GraphStats.ofJson? depth value = some stats) :
    stats.Fits := by
  unfold GraphStats.ofJson? at h
  split at h
  next => cases h
  next =>
    split at h
    next =>
      obtain ⟨calls, hcalls, h⟩ := Option.bind_eq_some_iff.1 h
      obtain ⟨nodes, hnodes, h⟩ := Option.bind_eq_some_iff.1 h
      obtain ⟨classLike, hclassLike, h⟩ := Option.bind_eq_some_iff.1 h
      obtain ⟨methodLike, hmethodLike, h⟩ := Option.bind_eq_some_iff.1 h
      obtain ⟨selfCalls, hselfCalls, h⟩ := Option.bind_eq_some_iff.1 h
      cases h
      simp [GraphStats.Fits, Value.le_of_toNat? hcalls,
        Value.le_of_toNat? hnodes, Value.le_of_toNat? hclassLike,
        Value.le_of_toNat? hmethodLike, Value.le_of_toNat? hselfCalls]
    next => cases h

end JavaSurvey.CallGraph

namespace JavaSurvey.Json

open CallGraph (CallNode Edge GraphStats)
open Syntax (Node NodeKind Span)

/-! ## All types -/

/-- Every type of the model is read back from its compact text, trees as far as
their nesting allows, and what is read from any text can be written and read
again. -/
theorem roundTrips_model :
    RoundTrips Span.toJson Span.ofJson? Span.Fits ∧
      RoundTrips NodeKind.toJson NodeKind.ofJson? (fun _ => True) ∧
      RoundTrips Edge.toJson Edge.ofJson? (fun _ => True) ∧
      RoundTrips CallNode.toJson CallNode.ofJson? (fun _ => True) ∧
      RoundTrips GraphStats.toJson GraphStats.ofJson? GraphStats.Fits ∧
      RoundTrips Node.toJson Node.ofJson? (Node.Fits maxDepth) := by
  have hdepth : maxDepth ≠ 0 := by decide
  refine ⟨?_, ?_, ?_, ?_, ?_, ?_⟩
  · exact roundTrips_of Span.readable_toJson
      (fun _ h => Span.ofJson?_toJson h hdepth)
      (fun _ _ h => Span.fits_of_ofJson? h)
  · exact roundTrips_of (fun _ => .string _)
      (fun kind _ => NodeKind.ofJson?_toJson _ kind) (fun _ _ _ => trivial)
  · exact roundTrips_of Edge.readable_toJson
      (fun edge _ => Edge.ofJson?_toJson edge hdepth) (fun _ _ _ => trivial)
  · exact roundTrips_of CallNode.readable_toJson
      (fun node _ => CallNode.ofJson?_toJson _ node) (fun _ _ _ => trivial)
  · exact roundTrips_of GraphStats.readable_toJson
      (fun _ h => GraphStats.ofJson?_toJson h hdepth)
      (fun _ _ h => GraphStats.fits_of_ofJson? h)
  · exact roundTrips_of Node.readable_toJson
      (fun _ h => Node.ofJson?_toJson h) (fun _ _ h => Node.fits_of_ofJson? h)

end JavaSurvey.Json
