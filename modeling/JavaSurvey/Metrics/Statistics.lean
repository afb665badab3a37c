import JavaSurvey.Decimal.Layout
import JavaSurvey.Metrics.Totals

/-!
# Statistics of a project

Averages are rounded up, and undefined when there is nothing to divide by. Classes
stand out by the number of their methods or attributes in two ways: by belonging
to the top share of all classes, or by exceeding a threshold.

The top share takes whole groups of classes with equal figures, from the largest
figure down, until it holds at least the share asked for. So it never divides
classes that are alike, and may hold more than was asked for.
-/

namespace JavaSurvey.Metrics

/-- An average over a project. -/
inductive Average where
  | methodsPerClass
  | linesPerMethod
  | attributesPerClass
deriving DecidableEq, Repr

/-- The name of an average in messages. -/
def Average.description : Average → String
  | .methodsPerClass => "average methods per class"
  | .linesPerMethod => "average lines per method"
  | .attributesPerClass => "average attributes per class"

/-- Why a figure cannot be given. -/
inductive MetricsError where
  | divideByZero (average : Average)
  | invalidPercentage (percent : Float)

/-- The wording of an error. -/
def MetricsError.message : MetricsError → String
  | .divideByZero average => s!"cannot compute {average.description}: divide by zero"
  | .invalidPercentage percent =>
    "percentage must be within 0..=100, got " ++ Decimal.plain.write percent

/-- What an average divides, and by what. -/
def Average.operands (totals : Totals) : Average → Nat × Nat
  | .methodsPerClass => (totals.methods, totals.classes)
  | .linesPerMethod => (totals.methodLines, totals.methods)
  | .attributesPerClass => (totals.attributes, totals.classes)

/-- An average, rounded up. -/
def Average.compute (totals : Totals) (average : Average) : Except MetricsError Nat :=
  let (numerator, denominator) := average.operands totals
  if denominator = 0 then .error (.divideByZero average)
  else .ok ((numerator + denominator - 1) / denominator)

/-! ## Outliers -/

/-- The entries with the figure `figure`. -/
def withFigure (figure : Nat) (entries : List (String × Nat)) : List (String × Nat) :=
  entries.filter fun entry => entry.2 == figure

/-- The entries with another figure than `figure`. -/
def withoutFigure (figure : Nat) (entries : List (String × Nat)) : List (String × Nat) :=
  entries.filter fun entry => entry.2 != figure

/-- Leaving out the largest figure leaves fewer entries. -/
theorem length_withoutFigure_lt {entries : List (String × Nat)} {top : Nat}
    (h : (entries.map Prod.snd).max? = some top) :
    (withoutFigure top entries).length < entries.length := by
  have hmem : top ∈ entries.map Prod.snd := List.max?_mem h
  obtain ⟨entry, hentry, htop⟩ := List.mem_map.1 hmem
  apply Nat.lt_of_le_of_ne (List.length_filter_le _ _)
  intro heq
  have hall := List.length_filter_eq_length_iff.1 heq entry hentry
  simp [htop] at hall

/-- The names of whole groups with equal figures, from the largest figure down,
until there are at least `needed`. -/
def topGroups (needed : Nat) (entries : List (String × Nat)) : List String :=
  if needed = 0 then []
  else
    match _h : (entries.map Prod.snd).max? with
    | none => []
    | some top =>
      let group := withFigure top entries
      group.map Prod.fst ++ topGroups (needed - group.length) (withoutFigure top entries)
termination_by entries.length
decreasing_by exact length_withoutFigure_lt (by assumption)

/-- Whether a double is a percentage. -/
def isPercentage (percent : Float) : Bool :=
  percent.isFinite && 0.0 ≤ percent && percent ≤ 100.0

/-- How many of `count` classes make up a share of `percent`, computed in doubles. -/
def shareSize (count : Nat) (percent : Float) : Nat :=
  Decimal.ceiling (Float.ofNat count * percent / 100.0)

/-- The classes in the top share. -/
def topShare (figures : ClassFigures) (percent : Float) : Except MetricsError (List String) :=
  if isPercentage percent then .ok (topGroups (shareSize figures.size percent) figures.entries)
  else .error (.invalidPercentage percent)

/-- The classes whose figure exceeds a threshold. -/
def moreThan (figures : ClassFigures) (threshold : Nat) : List String :=
  (figures.entries.filter fun entry => threshold < entry.2).map Prod.fst

/-- The names in both lists, in the order of the shorter one; of the first, if both
are equally long. -/
def inBoth (first second : List String) : List String :=
  if first.length ≤ second.length then first.filter second.contains
  else second.filter first.contains

/-! ## The statistics -/

/-- Averages where they are defined. -/
structure Averages where
  methodsPerClass : Option Nat
  linesPerMethod : Option Nat
  attributesPerClass : Option Nat
deriving DecidableEq, Repr

/-- The averages of totals. -/
def Averages.ofTotals (totals : Totals) : Averages where
  methodsPerClass := (Average.methodsPerClass.compute totals).toOption
  linesPerMethod := (Average.linesPerMethod.compute totals).toOption
  attributesPerClass := (Average.attributesPerClass.compute totals).toOption

/-- What makes a class stand out. -/
structure SelectionOptions where
  percent : Float
  threshold : Nat

/-- The classes that stand out, and by which measure. -/
structure Outliers where
  percent : Float
  threshold : Nat
  topByMethods : List String
  topByAttributes : List String
  topInBoth : List String
  moreMethodsThanThreshold : List String

/-- The statistics of a project. -/
structure Statistics where
  files : Nat
  totals : Totals
  averages : Averages
  outliers : Outliers

/-- The statistics of the files counted so far. -/
def Tally.finalize (tally : Tally) (options : SelectionOptions) :
    Except MetricsError Statistics := do
  let topByMethods ← topShare tally.classMethods options.percent
  let topByAttributes ← topShare tally.classAttributes options.percent
  pure
    { files := tally.files
      totals := tally.totals
      averages := .ofTotals tally.totals
      outliers :=
        { percent := options.percent
          threshold := options.threshold
          topByMethods := topByMethods
          topByAttributes := topByAttributes
          topInBoth := inBoth topByMethods topByAttributes
          moreMethodsThanThreshold := moreThan tally.classMethods options.threshold } }

end JavaSurvey.Metrics
