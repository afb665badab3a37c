import JavaSurvey.Data.NameSet
import JavaSurvey.Data.OrderedSet
import JavaSurvey.Syntax.Walk

/-!
# Totals over source files

Totals are built up one source file at a time. A class is known by its simple
name: a later class of the same name replaces the figures of an earlier one and
keeps its place, while the totals count both.

The lines of a file are the last line of the last type in pre-order, so a file
whose last type is nested counts only up to the end of that one.
-/

namespace JavaSurvey.Metrics

open Data (NameSet OrderedMap)
open Syntax (SourceUnit TypeDeclaration MethodDeclaration)

/-- What is counted over all files. -/
structure Totals where
  classes : Nat := 0
  lines : Nat := 0
  methods : Nat := 0
  packages : NameSet := .empty
  /-- The line breaks inside methods. -/
  methodLines : Nat := 0
  attributes : Nat := 0
  maxParameters : Nat := 0

/-- The figure of each class, by the class's simple name. -/
abbrev ClassFigures := OrderedMap String Nat

/-- What is known after some files. -/
structure Tally where
  files : Nat := 0
  totals : Totals := {}
  classMethods : ClassFigures := .empty
  classAttributes : ClassFigures := .empty

/-- Count a method. -/
def Totals.addMethod (totals : Totals) (method : MethodDeclaration) : Totals :=
  { totals with
    methodLines := totals.methodLines + method.span.lineDelta
    maxParameters := max totals.maxParameters method.node.parameterCount }

/-- Count the members of a type. -/
def Tally.addType (tally : Tally) (type : TypeDeclaration) : Tally :=
  { tally with
    totals := { tally.totals with attributes := tally.totals.attributes + type.fields.length }
    classMethods := tally.classMethods.insert type.name type.methods.length
    classAttributes := tally.classAttributes.insert type.name type.fields.length }

/-- Count a source file. -/
def Tally.accumulate (tally : Tally) (unit : SourceUnit) : Tally :=
  let types := unit.types
  let methods := unit.declarations
  let totals :=
    { tally.totals with
      classes := tally.totals.classes + types.length
      lines := tally.totals.lines + types.getLast?.elim 0 (·.span.endLine)
      methods := tally.totals.methods + methods.length
      packages := tally.totals.packages.insertAll unit.packages }
  types.foldl Tally.addType
    { tally with
      files := tally.files + 1
      totals := methods.foldl Totals.addMethod totals }

end JavaSurvey.Metrics
