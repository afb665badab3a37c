import JavaSurvey.Proofs.Outliers
import JavaSurvey.Proofs.TallyOfFiles

/-!
# Tallies of reordered files

Every total is a sum, a maximum or a set over the nodes of all files, so it does
not depend on the order of the files. The class maps do depend on it: their keys
are listed in the order of the files, and of types with the same name the last
one decides. Where no two types have the same name, though, a class map has one
entry for each type, and reordering the files reorders its entries. The
statistics then select the same names.

## Main results

* `totals_ofUnits_of_perm`: totals of reordered files.
* `perm_entries_classMap`: class maps of reordered files with distinct type
  names.
* `sameOutcome_finalize`: statistics of tallies that differ in the order of
  entries.
* `reordered_accumulateAll`: all of it for two orders of the same files.
-/

namespace JavaSurvey.Metrics

open Data (NameSet OrderedMap)
open Syntax (Node NodeKind SourceUnit nodesOfKind)

/-! ## Totals -/

theorem perm_nodesOfKind {units others : List SourceUnit}
    (h : units.Perm others) (kind : NodeKind) :
    (nodesOfKind units kind).Perm (nodesOfKind others kind) :=
  h.flatMap_right _

/-- Totals do not depend on the order of files. -/
theorem totals_ofUnits_of_perm {units others : List SourceUnit}
    (h : units.Perm others) :
    (Tally.ofUnits units).totals = (Tally.ofUnits others).totals := by
  have htypes := perm_nodesOfKind h .type
  have hmethods := perm_nodesOfKind h .method
  have hlines : (units.map linesOf).sum = (others.map linesOf).sum :=
    (h.map linesOf).sum_nat
  have hmethodLines := (hmethods.map fun node => node.span.lineDelta).sum_nat
  have hattributes := (htypes.map (Node.memberCount .field)).sum_nat
  have hmaximum := max?_eq_of_perm (hmethods.map (·.parameterCount))
  have hpackages : NameSet.ofList ((nodesOfKind units .package).map (·.name)) =
      NameSet.ofList ((nodesOfKind others .package).map (·.name)) := by
    apply NameSet.eq_of_mem_iff
    intro name
    rw [NameSet.mem_ofList, NameSet.mem_ofList]
    exact ((perm_nodesOfKind h .package).map _).mem_iff
  simp only [Tally.ofUnits, htypes.length_eq, hmethods.length_eq, hlines,
    hmethodLines, hattributes, hpackages, List.foldl_max, hmaximum]

/-! ## Class maps -/

/-- Types with distinct names have one entry each. -/
theorem entries_classMap {types : List Node} (kind : NodeKind)
    (h : (types.map (·.name)).Nodup) :
    (OrderedMap.ofList (types.map (classEntry kind))).entries =
      types.map (classEntry kind) := by
  have hkeys : ((types.map (classEntry kind)).map Prod.fst).Nodup := by
    rw [List.map_map]
    exact h
  exact OrderedMap.entries_insertAll_of_nodup .empty _ hkeys

theorem perm_entries_classMap {types others : List Node} (kind : NodeKind)
    (h : types.Perm others) (hnames : (types.map (·.name)).Nodup) :
    (OrderedMap.ofList (types.map (classEntry kind))).entries.Perm
      (OrderedMap.ofList (others.map (classEntry kind))).entries := by
  have hothers : (others.map (·.name)).Nodup := (h.map _).nodup hnames
  rw [entries_classMap kind hnames, entries_classMap kind hothers]
  exact h.map _

/-! ## Statistics -/

/-- The same names stand out in each respect, perhaps in another order. -/
structure Outliers.SameNames (first second : Outliers) : Prop where
  topByMethods : first.topByMethods.Perm second.topByMethods
  topByAttributes : first.topByAttributes.Perm second.topByAttributes
  topInBoth : first.topInBoth.Perm second.topInBoth
  moreMethodsThanThreshold :
    first.moreMethodsThanThreshold.Perm second.moreMethodsThanThreshold

/-- Two requests for statistics come out alike: both are refused for the same
reason, or both are answered, up to the order of the names that stand out. -/
inductive SameOutcome :
    Except MetricsError Statistics → Except MetricsError Statistics → Prop where
  | refused (error : MetricsError) : SameOutcome (.error error) (.error error)
  | answered {first second : Statistics} (files : first.files = second.files)
      (totals : first.totals = second.totals)
      (averages : first.averages = second.averages)
      (outliers : first.outliers.SameNames second.outliers) :
      SameOutcome (.ok first) (.ok second)

/-- The names that stand out do not depend on the order of entries. -/
theorem sameNames_statistics {first second : Tally} (options : SelectionOptions)
    (hmethods : first.classMethods.entries.Perm second.classMethods.entries)
    (hattributes :
      first.classAttributes.entries.Perm second.classAttributes.entries) :
    (first.statistics options).outliers.SameNames
      (second.statistics options).outliers := by
  have hmethodCount : first.classMethods.size = second.classMethods.size :=
    hmethods.length_eq
  have hattributeCount :
      first.classAttributes.size = second.classAttributes.size :=
    hattributes.length_eq
  have htopByMethods :=
    perm_topGroups (shareSize second.classMethods.size options.percent) hmethods
  have htopByAttributes :=
    perm_topGroups (shareSize second.classAttributes.size options.percent)
      hattributes
  simp only [Tally.statistics, hmethodCount, hattributeCount]
  exact
    { topByMethods := htopByMethods
      topByAttributes := htopByAttributes
      topInBoth := perm_inBoth htopByMethods htopByAttributes
      moreMethodsThanThreshold := (hmethods.filter _).map _ }

theorem sameOutcome_finalize {first second : Tally} (options : SelectionOptions)
    (hfiles : first.files = second.files)
    (htotals : first.totals = second.totals)
    (hmethods : first.classMethods.entries.Perm second.classMethods.entries)
    (hattributes :
      first.classAttributes.entries.Perm second.classAttributes.entries) :
    SameOutcome (first.finalize options) (second.finalize options) := by
  cases hpercent : isPercentage options.percent with
  | false =>
      rw [first.finalize_of_not_percentage hpercent,
        second.finalize_of_not_percentage hpercent]
      exact .refused _
  | true =>
      rw [first.finalize_of_percentage hpercent,
        second.finalize_of_percentage hpercent]
      exact .answered hfiles htotals (congrArg Averages.ofTotals htotals)
        (sameNames_statistics options hmethods hattributes)

/-- Files in another order have the same number, the same totals and the same
averages. If the names of types are distinct, the same names stand out under all
options that are accepted, and these are the ones whose percentage is one. -/
theorem reordered_accumulateAll {units others : List SourceUnit}
    (h : units.Perm others) :
    (Tally.accumulateAll units).files = (Tally.accumulateAll others).files ∧
      (Tally.accumulateAll units).totals = (Tally.accumulateAll others).totals ∧
      Averages.ofTotals (Tally.accumulateAll units).totals =
        Averages.ofTotals (Tally.accumulateAll others).totals ∧
      (((nodesOfKind units .type).map (·.name)).Nodup →
        ∀ options : SelectionOptions,
          SameOutcome ((Tally.accumulateAll units).finalize options)
              ((Tally.accumulateAll others).finalize options) ∧
            ((∃ statistics,
                (Tally.accumulateAll units).finalize options = .ok statistics) ↔
              isPercentage options.percent = true)) := by
  have htotals := totals_ofUnits_of_perm h
  rw [accumulateAll_eq_ofUnits, accumulateAll_eq_ofUnits]
  refine ⟨h.length_eq, htotals, congrArg Averages.ofTotals htotals, ?_⟩
  intro hnames options
  have htypes := perm_nodesOfKind h .type
  refine ⟨sameOutcome_finalize options h.length_eq htotals
    (perm_entries_classMap .method htypes hnames)
    (perm_entries_classMap .field htypes hnames), ?_⟩
  cases hpercent : isPercentage options.percent with
  | false => simp [Tally.finalize_of_not_percentage _ hpercent]
  | true => simp [Tally.finalize_of_percentage _ hpercent]

/-- A type with two methods and, behind them, a type inside it. -/
def nestedTypes : SourceUnit where
  path := "Outer.java"
  root := ⟨.unit, "Outer", ⟨1, 9⟩, 0, [⟨.package, "a", ⟨1, 1⟩, 0, []⟩,
    ⟨.type, "Outer", ⟨2, 9⟩, 0,
      [⟨.method, "open", ⟨3, 4⟩, 2, []⟩, ⟨.method, "close", ⟨5, 5⟩, 0, []⟩,
        ⟨.type, "Inner", ⟨6, 8⟩, 0, [⟨.field, "size", ⟨7, 7⟩, 0, []⟩]⟩]⟩]⟩

/-- A type with as many methods as `Outer`. -/
def tiedType : SourceUnit where
  path := "Tied.java"
  root := ⟨.unit, "Tied", ⟨1, 5⟩, 0, [⟨.type, "Tied", ⟨1, 5⟩, 0,
    [⟨.method, "open", ⟨2, 2⟩, 1, []⟩, ⟨.method, "close", ⟨3, 4⟩, 3, []⟩]⟩]⟩

theorem reordered_accumulateAll_tied :
    (Tally.accumulateAll [nestedTypes, tiedType]).classMethods.entries =
        [("Outer", 2), ("Inner", 0), ("Tied", 2)] ∧
      (Tally.accumulateAll [tiedType, nestedTypes]).classMethods.entries =
        [("Tied", 2), ("Outer", 2), ("Inner", 0)] ∧
      (Tally.accumulateAll [nestedTypes, tiedType]).totals =
        (Tally.accumulateAll [tiedType, nestedTypes]).totals ∧
      SameOutcome
        ((Tally.accumulateAll [nestedTypes, tiedType]).finalize ⟨50.0, 1⟩)
        ((Tally.accumulateAll [tiedType, nestedTypes]).finalize ⟨50.0, 1⟩) := by
  have hnames :
      ((nodesOfKind [nestedTypes, tiedType] .type).map (·.name)).Nodup := by
    decide +kernel
  obtain ⟨_, htotals, _, houtcome⟩ :=
    reordered_accumulateAll (List.Perm.swap tiedType nestedTypes [])
  exact ⟨by decide +kernel, by decide +kernel, htotals,
    (houtcome hnames ⟨50.0, 1⟩).1⟩

end JavaSurvey.Metrics
