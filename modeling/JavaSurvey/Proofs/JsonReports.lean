import JavaSurvey.Proofs.DoubleOrder
import JavaSurvey.Proofs.ModelJson
import JavaSurvey.Proofs.PositionalText
import JavaSurvey.Report.Json

/-!
# Reading reports

The report of a project's statistics is read back from its text, whatever the names
in it are. Names are kept apart by their quotes, numbers by the commas between them,
and what is undefined by null, which no number is. Only the percentage is a double,
and its decimal is taken to stand for it.

The time of a report stands on a line of its own, since a line break inside a string
is written as an escape. So reports can be compared without their times, and then
they differ if their projects or statistics do.

## Main results

* `numeral_jsonDouble`: a finite double is written as a JSON number.
* `report?_reportJson`: every part of a report is read back.
* `withoutTime_statisticsJson`: what a report is without its time.
* `tells_statisticsJson`: the text of a report tells its project and statistics.
-/

namespace JavaSurvey.Report

open Json
open Metrics (Average Averages Outliers Statistics Totals)

/-! ## Doubles -/

/-- The parts of a decimal without an exponent. -/
theorem parts_positionalText {decimal : Decimal.Scaled}
    (h : Decimal.ZeroIsPlain decimal) :
    ∃ whole fraction exponent,
      Decimal.positionalText true decimal = whole ++ (fraction ++ exponent) ∧
        WholePart whole ∧ FractionPart fraction ∧ ExponentPart exponent := by
  obtain ⟨whole, fraction, htext, hpointed⟩ := Decimal.pointed_positionalText h
  refine ⟨whole, '.' :: fraction, [], by rw [htext, List.append_nil], ?_, ?_, .none⟩
  · exact ⟨hpointed.whole_isDigit, hpointed.whole_ne_nil, hpointed.leading⟩
  · exact .point hpointed.fraction_isDigit hpointed.fraction_ne_nil

/-- The parts of a decimal with an exponent: one digit, a point and the others if
there are any, and the exponent. -/
theorem parts_exponentText (decimal : Decimal.Scaled) :
    ∃ whole fraction exponent,
      Decimal.exponentText decimal = whole ++ (fraction ++ exponent) ∧
        WholePart whole ∧ FractionPart fraction ∧ ExponentPart exponent := by
  have hdigits : ∀ n, ∀ c ∈ Decimal.digitsText n, c.isDigit = true :=
    fun n c hc => isDigit_of_mem_numeral hc
  have hsigned : ∀ sign n, sign = '+' ∨ sign = '-' →
      ExponentPart ('e' :: sign :: Decimal.digitsText n) :=
    fun sign n hsign => .signed hsign (hdigits n) (Decimal.digitsText_ne_nil n)
  obtain ⟨first, others, htext⟩ :=
    List.exists_cons_of_ne_nil (Decimal.digitsText_ne_nil decimal.digits)
  have hall := hdigits decimal.digits
  rw [htext, List.forall_mem_cons] at hall
  have hwhole : WholePart [first] :=
    ⟨List.forall_mem_singleton.2 hall.1, List.cons_ne_nil _ _,
      fun hlength => absurd hlength (Nat.lt_irrefl 1)⟩
  unfold Decimal.exponentText
  simp only [htext]
  generalize decimal.exponent + _ - 1 = power
  cases others with
  | nil =>
      cases power with
      | ofNat n => exact ⟨[first], [], _, rfl, hwhole, .none, hsigned '+' n (.inl rfl)⟩
      | negSucc n => exact ⟨[first], [], _, rfl, hwhole, .none, hsigned '-' (n + 1) (.inr rfl)⟩
  | cons second others =>
      have hfraction : FractionPart ('.' :: second :: others) :=
        .point hall.2 (List.cons_ne_nil _ _)
      cases power with
      | ofNat n => exact ⟨[first], _, _, rfl, hwhole, hfraction, hsigned '+' n (.inl rfl)⟩
      | negSucc n =>
          exact ⟨[first], _, _, rfl, hwhole, hfraction, hsigned '-' (n + 1) (.inr rfl)⟩

/-- The parts of a finite double, behind its sign. -/
theorem parts_jsonDouble {x : Float} {value : Decimal.Binary}
    (hx : Decimal.Double.ofFloat x = .finite value) :
    ∃ whole fraction exponent,
      (jsonDouble.write x).toList =
          Decimal.signText value.negative ++ (whole ++ (fraction ++ exponent)) ∧
        WholePart whole ∧ FractionPart fraction ∧ ExponentPart exponent := by
  have hsign : ∀ body : List Char,
      (if value.negative then '-' :: body else body) =
        Decimal.signText value.negative ++ body := by
    intro body
    cases value.negative <;> rfl
  simp only [Decimal.Layout.write, hx, hsign, String.toList_ofList]
  split
  next =>
    obtain ⟨whole, fraction, exponent, htext, hparts⟩ :=
      parts_positionalText (Decimal.zeroIsPlain_shortest value)
    exact ⟨whole, fraction, exponent, congrArg _ htext, hparts⟩
  next =>
    obtain ⟨whole, fraction, exponent, htext, hparts⟩ :=
      parts_exponentText (Decimal.shortest value)
    exact ⟨whole, fraction, exponent, congrArg _ htext, hparts⟩

theorem numeral_jsonDouble {x : Float} (h : x.isFinite = true) :
    Numeral (jsonDouble.write x) := by
  obtain ⟨value, hx⟩ := (Decimal.isFinite_iff x).1 h
  obtain ⟨whole, fraction, exponent, htext, hwhole, hfraction, hexponent⟩ :=
    parts_jsonDouble hx
  have hsign : Decimal.signText value.negative = [] ∨
      Decimal.signText value.negative = ['-'] := by
    cases value.negative
    · exact .inl rfl
    · exact .inr rfl
  exact numeral_of_parts hsign hwhole hfraction hexponent htext

/-! ## Values of a report -/

/-- The part of a report that holds the statistics. -/
def figuresJson (statistics : Statistics) : Value :=
  .object
    [("files", .ofNat statistics.files), ("totals", totalsJson statistics.totals),
      ("averages", averagesJson statistics.averages),
      ("outliers", outliersJson statistics.outliers)]

theorem readable_ofStrings (texts : List String) : (Value.ofStrings texts).Readable := by
  apply Value.Readable.array
  intro item hitem
  obtain ⟨text, _, rfl⟩ := List.mem_map.1 hitem
  exact .string text

theorem readable_ofNat? (value : Option Nat) : (Value.ofNat? value).Readable := by
  cases value with
  | none => exact .null
  | some n => exact readable_ofNat n

theorem readable_totalsJson (totals : Totals) : (totalsJson totals).Readable := by
  apply Value.Readable.object
  simp only [List.forall_mem_cons, readable_ofNat, readable_ofStrings, true_and]
  exact List.forall_mem_nil _

theorem readable_averagesJson (averages : Averages) : (averagesJson averages).Readable := by
  apply Value.Readable.object
  simp only [List.forall_mem_cons, readable_ofNat?, true_and]
  exact List.forall_mem_nil _

theorem readable_outliersJson {outliers : Outliers}
    (h : outliers.percent.isFinite = true) : (outliersJson outliers).Readable := by
  have hdouble : (doubleJson outliers.percent).Readable := by
    rw [doubleJson, if_pos h]
    exact .number (numeral_jsonDouble h)
  apply Value.Readable.object
  simp only [List.forall_mem_cons, hdouble, readable_ofNat, readable_ofStrings, true_and]
  exact List.forall_mem_nil _

theorem readable_reportJson {statistics : Statistics}
    (h : statistics.outliers.percent.isFinite = true) (generatedAt project : String) :
    (reportJson generatedAt project statistics).Readable := by
  have hfigures : (figuresJson statistics).Readable := by
    apply Value.Readable.object
    simp only [List.forall_mem_cons, readable_ofNat, readable_totalsJson,
      readable_averagesJson, readable_outliersJson h, true_and]
    exact List.forall_mem_nil _
  apply Value.Readable.object
  simp only [List.forall_mem_cons, Value.Readable.string, true_and]
  exact ⟨hfigures, List.forall_mem_nil _⟩

/-! ## Reading a report -/

/-- The natural number that a value is: one written without sign, fraction and
exponent. -/
def natural? : Value → Option Nat
  | .number literal =>
    if literal.toList.all Char.isDigit && !literal.toList.isEmpty then
      some (Text.digitsValue literal.toList)
    else none
  | _ => none

/-- A natural number, or nothing for null. -/
def naturalOrNull? : Value → Option (Option Nat)
  | .null => some none
  | value => (natural? value).map some

/-- A list of texts. -/
def texts? : Value → Option (List String)
  | .array items => items.mapM Value.toString?
  | _ => none

/-- A list of texts in ascending order, without repetitions. -/
def names? (value : Value) : Option Data.NameSet :=
  (texts? value).bind fun names =>
    if h : names.Pairwise (· < ·) then some ⟨names, h⟩ else none

/-- A double. -/
def double? : Value → Option Float
  | .number literal => Decimal.read? literal
  | _ => none

/-- Totals. -/
def totals? (value : Value) : Option Totals :=
  match value.fields? ["classes", "lines", "methods", "packages", "method_lines",
    "attributes", "max_parameters"] with
  | some [classes, lines, methods, packages, methodLines, attributes, maxParameters] => do
    some ⟨← natural? classes, ← natural? lines, ← natural? methods, ← names? packages,
      ← natural? methodLines, ← natural? attributes, ← natural? maxParameters⟩
  | _ => none

/-- The name of an average in a report. -/
def averageName : Average → String
  | .methodsPerClass => "methods_per_class"
  | .linesPerMethod => "lines_per_method"
  | .attributesPerClass => "attributes_per_class"

/-- Averages. -/
def averages? (value : Value) : Option Averages :=
  match value.fields? [averageName .methodsPerClass, averageName .linesPerMethod,
    averageName .attributesPerClass] with
  | some [methodsPerClass, linesPerMethod, attributesPerClass] => do
    some ⟨← naturalOrNull? methodsPerClass, ← naturalOrNull? linesPerMethod,
      ← naturalOrNull? attributesPerClass⟩
  | _ => none

/-- Outliers. -/
def outliers? (value : Value) : Option Outliers :=
  match value.fields? ["percent", "threshold", "top_by_methods", "top_by_attributes",
    "top_in_both", "more_methods_than_threshold"] with
  | some [percent, threshold, topByMethods, topByAttributes, topInBoth, moreMethods] => do
    some ⟨← double? percent, ← natural? threshold, ← texts? topByMethods,
      ← texts? topByAttributes, ← texts? topInBoth, ← texts? moreMethods⟩
  | _ => none

/-- Statistics. -/
def statistics? (value : Value) : Option Statistics :=
  match value.fields? ["files", "totals", "averages", "outliers"] with
  | some [files, totals, averages, outliers] => do
    some ⟨← natural? files, ← totals? totals, ← averages? averages, ← outliers? outliers⟩
  | _ => none

/-- The time, the project and the statistics of a report. -/
def report? (value : Value) : Option (String × String × Statistics) :=
  match value.fields? ["generated_at", "project", "statistics"] with
  | some [generatedAt, project, statistics] => do
    some (← generatedAt.toString?, ← project.toString?, ← statistics? statistics)
  | _ => none

theorem natural?_ofNat (n : Nat) : natural? (.ofNat n) = some n := by
  simp only [Value.ofNat, natural?, String.toList_ofList, all_isDigit_toDigits,
    isEmpty_toDigits, Text.digitsValue_toDigits, Bool.not_false, Bool.and_self, if_true]

theorem naturalOrNull?_ofNat? (value : Option Nat) :
    naturalOrNull? (.ofNat? value) = some value := by
  cases value with
  | none => rfl
  | some n =>
      show (natural? (.ofNat n)).map some = _
      rw [natural?_ofNat]
      rfl

theorem ofNat?_eq_null_iff (value : Option Nat) :
    Value.ofNat? value = .null ↔ value = none := by
  cases value with
  | none => exact iff_of_true rfl rfl
  | some n => simp [Value.ofNat?, Value.ofNat]

theorem texts?_ofStrings (texts : List String) : texts? (.ofStrings texts) = some texts :=
  Syntax.mapM_map_of_forall fun _ _ => rfl

theorem names?_ofStrings (names : Data.NameSet) :
    names? (.ofStrings names.toList) = some names := by
  rw [names?, texts?_ofStrings, Option.bind_some]
  exact dif_pos names.sorted

theorem totals?_totalsJson (totals : Totals) : totals? (totalsJson totals) = some totals := by
  have hfields : (totalsJson totals).fields? ["classes", "lines", "methods", "packages",
      "method_lines", "attributes", "max_parameters"] =
      some [.ofNat totals.classes, .ofNat totals.lines, .ofNat totals.methods,
        .ofStrings totals.packages.toList, .ofNat totals.methodLines,
        .ofNat totals.attributes, .ofNat totals.maxParameters] := rfl
  rw [totals?, hfields]
  simp only [natural?_ofNat, names?_ofStrings, Option.bind_eq_bind, Option.bind_some]

theorem averages?_averagesJson (averages : Averages) :
    averages? (averagesJson averages) = some averages := by
  have hfields : (averagesJson averages).fields? [averageName .methodsPerClass,
      averageName .linesPerMethod, averageName .attributesPerClass] =
      some [.ofNat? averages.methodsPerClass, .ofNat? averages.linesPerMethod,
        .ofNat? averages.attributesPerClass] := rfl
  rw [averages?, hfields]
  simp only [naturalOrNull?_ofNat?, Option.bind_eq_bind, Option.bind_some]

section Percent

variable {statistics : Statistics}
  (hfinite : statistics.outliers.percent.isFinite = true)
  (hpercent : Decimal.read? (jsonDouble.write statistics.outliers.percent) =
    some statistics.outliers.percent)

include hfinite hpercent

theorem outliers?_outliersJson :
    outliers? (outliersJson statistics.outliers) = some statistics.outliers := by
  have hdouble : double? (doubleJson statistics.outliers.percent) =
      some statistics.outliers.percent := by
    rw [doubleJson, if_pos hfinite]
    exact hpercent
  have hfields : (outliersJson statistics.outliers).fields? ["percent", "threshold",
      "top_by_methods", "top_by_attributes", "top_in_both",
      "more_methods_than_threshold"] =
      some [doubleJson statistics.outliers.percent,
        .ofNat statistics.outliers.threshold,
        .ofStrings statistics.outliers.topByMethods,
        .ofStrings statistics.outliers.topByAttributes,
        .ofStrings statistics.outliers.topInBoth,
        .ofStrings statistics.outliers.moreMethodsThanThreshold] := rfl
  rw [outliers?, hfields]
  simp only [hdouble, natural?_ofNat, texts?_ofStrings, Option.bind_eq_bind,
    Option.bind_some]

theorem statistics?_figuresJson : statistics? (figuresJson statistics) = some statistics := by
  have hfields : (figuresJson statistics).fields? ["files", "totals", "averages",
      "outliers"] =
      some [.ofNat statistics.files, totalsJson statistics.totals,
        averagesJson statistics.averages, outliersJson statistics.outliers] := rfl
  rw [statistics?, hfields]
  simp only [natural?_ofNat, totals?_totalsJson, averages?_averagesJson,
    outliers?_outliersJson hfinite hpercent, Option.bind_eq_bind, Option.bind_some]

/-- Every part of a report is read back. -/
theorem report?_reportJson (generatedAt project : String) :
    report? (reportJson generatedAt project statistics) =
      some (generatedAt, project, statistics) := by
  have hfields : (reportJson generatedAt project statistics).fields? ["generated_at",
      "project", "statistics"] =
      some [.string generatedAt, .string project, figuresJson statistics] := rfl
  rw [report?, hfields]
  simp only [Value.toString?, statistics?_figuresJson hfinite hpercent,
    Option.bind_eq_bind, Option.bind_some]

/-- The text of a report is read back. -/
theorem read?_statisticsJson (generatedAt project : String) :
    (read? (statisticsJson generatedAt project statistics)).bind report? =
      some (generatedAt, project, statistics) := by
  rw [statisticsJson, read?_pretty (readable_reportJson hfinite generatedAt project),
    Option.bind_some, report?_reportJson hfinite hpercent]

end Percent

/-! ## The line of the time -/

/-- What follows the first line of a text. -/
def behindLine (text : List Char) : List Char :=
  (text.dropWhile (· != '\n')).tail

/-- A report without its first two lines, the second of which tells its time. -/
def withoutTime (text : String) : List Char :=
  behindLine (behindLine text.toList)

/-- The line of the time behind its indentation. -/
def timeText (generatedAt : String) : String :=
  quote "generated_at" ++ ": " ++ quote generatedAt ++ ","

/-- A report up to the end of its second line. -/
def beforeFigures (generatedAt : String) : String :=
  "\x7b" ++ (indentation 1 ++ timeText generatedAt)

/-- A report from the end of its second line on. -/
def figuresText (project : String) (statistics : Statistics) : String :=
  Value.indentedMembers 1
      [("project", .string project), ("statistics", figuresJson statistics)] ++
    indentation 0 ++ "\x7d"

theorem statisticsJson_eq (generatedAt project : String) (statistics : Statistics) :
    statisticsJson generatedAt project statistics =
      beforeFigures generatedAt ++ figuresText project statistics := by
  unfold statisticsJson Value.pretty reportJson beforeFigures timeText figuresText
    figuresJson
  rw [Value.indented, Value.indentedMembers]
  · simp only [Value.indented, Value.writeScalar, String.append_assoc]
  · intro heq
    cases heq

/-- Whether no line ends inside a text. -/
def isLine (text : List Char) : Bool :=
  text.all (· != '\n')

theorem isLine_append (first second : List Char) :
    isLine (first ++ second) = (isLine first && isLine second) :=
  List.all_append

theorem behindLine_append {line : List Char} (h : isLine line = true) (rest : List Char) :
    behindLine (line ++ '\n' :: rest) = rest := by
  rw [behindLine, List.dropWhile_append_of_pos (List.all_eq_true.1 h),
    List.dropWhile_cons_of_neg (by decide), List.tail_cons]

theorem isLine_escapeChar (c : Char) : isLine (escapeChar c) = true := by
  have hhex : ∀ n < 16, (hexDigit n != '\n') = true := by decide
  unfold escapeChar
  split_ifs with _ _ _ _ hbreak _ _ hcontrol
  iterate 7 rfl
  · have hhigh := hhex (c.toNat / 16) (by omega)
    have hlow := hhex (c.toNat % 16) (by omega)
    simp only [isLine, List.all_cons, hhigh, hlow]
    rfl
  · simp only [isLine, List.all_cons, bne, hbreak]
    rfl

/-- No line ends inside a string. -/
theorem isLine_quote (text : String) : isLine (quote text).toList = true := by
  rw [toList_quote, ← List.singleton_append, isLine_append, isLine_append]
  have hescaped : isLine (text.toList.flatMap escapeChar) = true := by
    rw [isLine, List.all_flatMap, List.all_eq_true]
    exact fun c _ => isLine_escapeChar c
  rw [hescaped]
  rfl

theorem toList_indentation (level : Nat) :
    (indentation level).toList = '\n' :: List.replicate (2 * level) ' ' := by
  rw [indentation, String.toList_append]
  exact congrArg (List.cons '\n') String.toList_ofList

theorem isLine_timeText (generatedAt : String) :
    isLine (timeText generatedAt).toList = true := by
  simp only [timeText, String.toList_append, isLine_append, isLine_quote]
  rfl

/-- Without its time a report is its project and its figures. -/
theorem withoutTime_statisticsJson (generatedAt project : String) (statistics : Statistics) :
    '\n' :: withoutTime (statisticsJson generatedAt project statistics) =
      (figuresText project statistics).toList := by
  obtain ⟨figures, hfigures⟩ :
      ∃ figures, (figuresText project statistics).toList = '\n' :: figures := by
    unfold figuresText
    rw [Value.indentedMembers]
    · simp only [String.toList_append, toList_indentation, List.cons_append]
      exact ⟨_, rfl⟩
    · intro heq
      cases heq
  have hbrace : isLine "\x7b".toList = true := by decide
  have hline : isLine (List.replicate (2 * 1) ' ' ++ (timeText generatedAt).toList) =
      true := by
    rw [isLine_append, isLine_timeText]
    rfl
  have htext : (statisticsJson generatedAt project statistics).toList =
      "\x7b".toList ++ '\n' :: (List.replicate (2 * 1) ' ' ++
        (timeText generatedAt).toList ++ '\n' :: figures) := by
    rw [statisticsJson_eq, beforeFigures, String.toList_append, String.toList_append,
      String.toList_append, hfigures, toList_indentation]
    simp only [List.append_assoc, List.cons_append]
  rw [withoutTime, htext, behindLine_append hbrace, behindLine_append hline, hfigures]

/-! ## What a report tells -/

/-- The value at the end of a path through objects. -/
def valueAt? : List String → Value → Option Value
  | [], value => some value
  | name :: path, value => ((value.fields? [name]).bind List.head?).bind (valueAt? path)

/-- An average, where it is defined. -/
def averageOf (averages : Averages) : Average → Option Nat
  | .methodsPerClass => averages.methodsPerClass
  | .linesPerMethod => averages.linesPerMethod
  | .attributesPerClass => averages.attributesPerClass

/-- A value tells the time, the project and the statistics of a report. -/
structure Tells (value : Value) (generatedAt project : String) (statistics : Statistics) :
    Prop where
  report : report? value = some (generatedAt, project, statistics)
  /-- Packages are listed in ascending order, each of them once. -/
  packages : ∃ names : List String, names.Pairwise (· < ·) ∧
    (valueAt? ["statistics", "totals", "packages"] value).bind texts? = some names ∧
    names = statistics.totals.packages.toList
  /-- Null stands for the averages that are undefined, and for no others. -/
  undefined : ∀ average,
    valueAt? ["statistics", "averages", averageName average] value = some .null ↔
      averageOf statistics.averages average = none

theorem tells_reportJson {statistics : Statistics}
    (hfinite : statistics.outliers.percent.isFinite = true)
    (hpercent : Decimal.read? (jsonDouble.write statistics.outliers.percent) =
      some statistics.outliers.percent) (generatedAt project : String) :
    Tells (reportJson generatedAt project statistics) generatedAt project statistics where
  report := report?_reportJson hfinite hpercent generatedAt project
  packages := by
    refine ⟨_, statistics.totals.packages.sorted, ?_, rfl⟩
    exact texts?_ofStrings _
  undefined := by
    intro average
    have hvalue : valueAt? ["statistics", "averages", averageName average]
        (reportJson generatedAt project statistics) =
        some (.ofNat? (averageOf statistics.averages average)) := by
      cases average <;> rfl
    rw [hvalue, Option.some.injEq, ofNat?_eq_null_iff]

/-- The text of a report with a finite percentage is read as a value that tells its
project and its statistics, and no other project or statistics have this text
without its time. -/
theorem tells_statisticsJson (generatedAt project : String) {statistics : Statistics}
    (hfinite : statistics.outliers.percent.isFinite = true)
    (hpercent : Decimal.read? (jsonDouble.write statistics.outliers.percent) =
      some statistics.outliers.percent) :
    (∃ value, read? (statisticsJson generatedAt project statistics) = some value ∧
      Tells value generatedAt project statistics) ∧
    ∀ (otherTime otherProject : String) (others : Statistics),
      others.outliers.percent.isFinite = true →
      Decimal.read? (jsonDouble.write others.outliers.percent) =
        some others.outliers.percent →
      withoutTime (statisticsJson generatedAt project statistics) =
        withoutTime (statisticsJson otherTime otherProject others) →
      project = otherProject ∧ statistics = others := by
  refine ⟨⟨_, read?_pretty (readable_reportJson hfinite generatedAt project),
    tells_reportJson hfinite hpercent generatedAt project⟩, ?_⟩
  intro otherTime otherProject others hothersFinite hothersPercent htext
  have hfigures : figuresText project statistics = figuresText otherProject others := by
    rw [← String.toList_inj, ← withoutTime_statisticsJson generatedAt,
      ← withoutTime_statisticsJson otherTime, htext]
  -- Both texts are read, under the same time.
  have hread := read?_statisticsJson hfinite hpercent generatedAt project
  rw [statisticsJson_eq, hfigures, ← statisticsJson_eq,
    read?_statisticsJson hothersFinite hothersPercent, Option.some.injEq] at hread
  cases hread
  exact ⟨rfl, rfl⟩

/-- Statistics with names that need escapes, and an average that is undefined. -/
def escapedFigures (name : String) : Statistics where
  files := 2
  totals := { classes := 1, lines := 40, packages := ⟨["a.b", "c\"\n"], by decide⟩ }
  averages := ⟨some 0, none, some 0⟩
  outliers := ⟨12.5, 10, [name], [name], [name], []⟩

/-- A quote and its escape are told apart. -/
theorem tells_statisticsJson_escaped :
    (∃ value,
      read? (statisticsJson "now" "demo\t\n" (escapedFigures "A\"")) = some value ∧
        Tells value "now" "demo\t\n" (escapedFigures "A\"")) ∧
    withoutTime (statisticsJson "now" "demo\t\n" (escapedFigures "A\"")) ≠
      withoutTime (statisticsJson "then" "demo\t\n" (escapedFigures "A\\\"")) := by
  have hpercent : Decimal.read? (jsonDouble.write 12.5) = some 12.5 := rfl
  obtain ⟨hread, hother⟩ := @tells_statisticsJson "now" "demo\t\n" (escapedFigures "A\"")
    (by decide) hpercent
  refine ⟨hread, fun htext => ?_⟩
  obtain ⟨_, hsame⟩ := hother "then" _ (escapedFigures "A\\\"") (by decide) hpercent htext
  have hnames := congrArg (fun figures => figures.outliers.topByMethods) hsame
  exact absurd hnames (by decide)

end JavaSurvey.Report
