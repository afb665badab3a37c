import JavaSurvey.Metrics.Totals
import JavaSurvey.Proofs.Collections
import JavaSurvey.Proofs.Preorder
import Mathlib.Algebra.GroupWithZero.Nat

/-!
# The tally of a list of files

A tally is built up file by file, and inside a file member by member.
`Tally.ofUnits` says at once what comes out: each figure is a sum, a maximum or
a set over the nodes of all files in pre-order, and each class map is the map
that results from one entry per type, where a later entry replaces an earlier
one of the same name.

## Main results

* `accumulateAll_eq_ofUnits`: accumulating files one by one gives
  `Tally.ofUnits`.
* `describes_accumulateAll`: that tally read field by field, without maps and
  sets being built.
-/

namespace JavaSurvey.Syntax

/-- The number of direct children of one kind. -/
def Node.memberCount (kind : NodeKind) (node : Node) : Nat :=
  node.children.countP fun child => child.kind == kind

/-- The nodes of one kind in several files, in pre-order and file by file. -/
def nodesOfKind (units : List SourceUnit) (kind : NodeKind) : List Node :=
  units.flatMap fun unit => unit.root.ofKind kind

theorem nodesOfKind_concat (units : List SourceUnit) (unit : SourceUnit)
    (kind : NodeKind) :
    nodesOfKind (units ++ [unit]) kind =
      nodesOfKind units kind ++ unit.root.ofKind kind := by
  rw [nodesOfKind, List.flatMap_append, List.flatMap_singleton, nodesOfKind]

end JavaSurvey.Syntax

namespace JavaSurvey.Metrics

open Data (NameSet OrderedMap)
open Syntax (Node NodeKind SourceUnit TypeDeclaration MethodDeclaration
  nodesOfKind)

/-! ## Folding over the members of a file -/

/-- The entry of a type in a class map. -/
def classEntry (kind : NodeKind) (type : Node) : String × Nat :=
  (type.name, type.memberCount kind)

theorem foldl_addMethod (totals : Totals) (methods : List MethodDeclaration) :
    methods.foldl Totals.addMethod totals =
      { totals with
        methodLines := totals.methodLines +
          ((methods.map (·.node)).map fun node => node.span.lineDelta).sum
        maxParameters :=
          ((methods.map (·.node)).map (·.parameterCount)).foldl max
            totals.maxParameters } := by
  induction methods generalizing totals with
  | nil => rfl
  | cons method methods ih =>
      rw [List.foldl_cons, ih]
      simp only [Totals.addMethod, Syntax.View.span, List.map_cons,
        List.sum_cons, List.foldl_cons, Nat.add_assoc]

theorem foldl_addType (tally : Tally) (types : List TypeDeclaration) :
    types.foldl Tally.addType tally =
      { tally with
        totals := { tally.totals with
          attributes := tally.totals.attributes +
            ((types.map (·.node)).map (Node.memberCount .field)).sum }
        classMethods :=
          tally.classMethods.insertAll
            ((types.map (·.node)).map (classEntry .method))
        classAttributes :=
          tally.classAttributes.insertAll
            ((types.map (·.node)).map (classEntry .field)) } := by
  induction types generalizing tally with
  | nil => rfl
  | cons type types ih =>
      have hmethods : type.methods.length = type.node.memberCount .method :=
        Syntax.View.length_ofNodes .method type.node.children
      have hfields : type.fields.length = type.node.memberCount .field :=
        Syntax.View.length_ofNodes .field type.node.children
      rw [List.foldl_cons, ih]
      simp only [Tally.addType, Syntax.View.name, hmethods, hfields,
        List.map_cons, List.sum_cons, Nat.add_assoc, OrderedMap.insertAll,
        List.foldl_cons, classEntry]

/-! ## Accumulating files -/

/-- The tally after several files, accumulated one after the other. -/
def Tally.accumulateAll (units : List SourceUnit) : Tally :=
  units.foldl Tally.accumulate {}

theorem accumulateAll_concat (units : List SourceUnit) (unit : SourceUnit) :
    Tally.accumulateAll (units ++ [unit]) =
      (Tally.accumulateAll units).accumulate unit := by
  rw [Tally.accumulateAll, List.foldl_append]
  rfl

/-- The lines of a file: where its last type ends. -/
def linesOf (unit : SourceUnit) : Nat :=
  (unit.root.ofKind .type).getLast?.elim 0 fun type => type.span.endLine

/-- What the tally of several files comes to. -/
def Tally.ofUnits (units : List SourceUnit) : Tally where
  files := units.length
  totals :=
    { classes := (nodesOfKind units .type).length
      lines := (units.map linesOf).sum
      methods := (nodesOfKind units .method).length
      packages := .ofList ((nodesOfKind units .package).map (·.name))
      methodLines :=
        ((nodesOfKind units .method).map fun node => node.span.lineDelta).sum
      attributes :=
        ((nodesOfKind units .type).map (Node.memberCount .field)).sum
      maxParameters :=
        ((nodesOfKind units .method).map (·.parameterCount)).foldl max 0 }
  classMethods := .ofList ((nodesOfKind units .type).map (classEntry .method))
  classAttributes := .ofList ((nodesOfKind units .type).map (classEntry .field))

/-- The nodes that a file is counted by. -/
theorem map_node_types (unit : SourceUnit) :
    unit.types.map (·.node) = unit.root.ofKind .type :=
  Syntax.map_node_selectKind unit.root .type

theorem map_node_declarations (unit : SourceUnit) :
    unit.declarations.map (·.node) = unit.root.ofKind .method :=
  Syntax.map_node_selectKind unit.root .method

theorem packages_eq (unit : SourceUnit) :
    unit.packages = (unit.root.ofKind .package).map (·.name) := by
  rw [SourceUnit.packages, ← Syntax.map_node_selectKind, List.map_map]
  rfl

/-- One more file: the tally of the files before it becomes the tally of all. -/
theorem accumulate_ofUnits (units : List SourceUnit) (unit : SourceUnit) :
    (Tally.ofUnits units).accumulate unit =
      Tally.ofUnits (units ++ [unit]) := by
  have htypes : unit.types.length = (unit.root.ofKind .type).length := by
    rw [← map_node_types, List.length_map]
  have hmethods :
      unit.declarations.length = (unit.root.ofKind .method).length := by
    rw [← map_node_declarations, List.length_map]
  have hlines : unit.types.getLast?.elim 0 (·.span.endLine) = linesOf unit := by
    rw [linesOf, ← map_node_types, List.getLast?_map]
    cases unit.types.getLast? <;> rfl
  rw [Tally.accumulate, foldl_addType, foldl_addMethod, map_node_types,
    map_node_declarations, packages_eq, htypes, hmethods, hlines]
  simp only [Tally.ofUnits, Syntax.nodesOfKind_concat, List.length_append,
    List.length_singleton, List.map_append, List.map_singleton, List.sum_append,
    List.sum_singleton, List.foldl_append, NameSet.ofList, NameSet.insertAll,
    OrderedMap.ofList, OrderedMap.insertAll]

/-- Accumulating files one after the other gives their tally. -/
theorem accumulateAll_eq_ofUnits (units : List SourceUnit) :
    Tally.accumulateAll units = Tally.ofUnits units := by
  induction units using List.reverseRecOn with
  | nil => rfl
  | append_singleton units unit ih =>
      rw [accumulateAll_concat, ih, accumulate_ofUnits]

/-! ## The tally field by field -/

/-- A class map lists the distinct names of types in the order in which they
first come, each with the number of direct members of the last type of that name. -/
structure FiguresOfLast (types : List Node) (kind : NodeKind)
    (figures : ClassFigures) : Prop where
  keys : figures.keys = (types.map (·.name)).eraseDups
  value : ∀ name, figures.get? name =
    (types.filter fun type => type.name == name).getLast?.map
      (Node.memberCount kind)

theorem figuresOfLast_ofList (types : List Node) (kind : NodeKind) :
    FiguresOfLast types kind (.ofList (types.map (classEntry kind))) where
  keys := by
    have hkeys :=
      OrderedMap.keys_insertAll .empty (types.map (classEntry kind))
    rw [List.map_map] at hkeys
    exact hkeys
  value := by
    intro name
    have hvalue :=
      OrderedMap.get?_insertAll .empty (types.map (classEntry kind)) name
    rw [List.filter_map, List.getLast?_map, Option.map_map] at hvalue
    exact hvalue.trans Option.or_none

/-- What a tally says about the files it was built from. -/
structure Tally.Describes (tally : Tally) (units : List SourceUnit) : Prop where
  files : tally.files = units.length
  classes : tally.totals.classes =
    (units.map fun unit => (unit.root.ofKind .type).length).sum
  methods : tally.totals.methods =
    (units.map fun unit => (unit.root.ofKind .method).length).sum
  methodLines : tally.totals.methodLines =
    (units.map fun unit => ((unit.root.ofKind .method).map fun method =>
      method.span.endLine - method.span.startLine).sum).sum
  attributes : tally.totals.attributes =
    ((nodesOfKind units .type).map (Node.memberCount .field)).sum
  /-- The last type of each file in pre-order counts; a file without types
  counts nothing. -/
  lines : tally.totals.lines =
    (units.map fun unit =>
      (unit.root.ofKind .type).getLast?.elim 0 fun type => type.span.endLine).sum
  maxParameters : tally.totals.maxParameters =
    ((nodesOfKind units .method).map (·.parameterCount)).max?.getD 0
  packages : ∀ name, name ∈ tally.totals.packages.toList ↔
    ∃ node ∈ nodesOfKind units .package, node.name = name
  classMethods :
    FiguresOfLast (nodesOfKind units .type) .method tally.classMethods
  classAttributes :
    FiguresOfLast (nodesOfKind units .type) .field tally.classAttributes

/-- The tally of files says of them what it should, however many there are and
however their declarations are nested. -/
theorem describes_accumulateAll (units : List SourceUnit) :
    (Tally.accumulateAll units).Describes units := by
  rw [accumulateAll_eq_ofUnits]
  exact
    { files := rfl
      classes := List.length_flatMap
      methods := List.length_flatMap
      methodLines := by
        show ((nodesOfKind units .method).map
          fun node => node.span.lineDelta).sum = _
        rw [nodesOfKind, List.map_flatMap, List.flatMap_def, List.sum_flatten,
          List.map_map]
        rfl
      attributes := rfl
      lines := rfl
      maxParameters := by
        show ((nodesOfKind units .method).map
          (·.parameterCount)).foldl max 0 = _
        rw [List.foldl_max, Nat.zero_max]
      packages := by
        intro name
        exact NameSet.mem_ofList.trans List.mem_map
      classMethods := figuresOfLast_ofList _ .method
      classAttributes := figuresOfLast_ofList _ .field }

end JavaSurvey.Metrics
