import JavaSurvey.Proofs.DoubleOrder
import JavaSurvey.Proofs.Ranking
import Mathlib.Order.Bounds.Basic

/-!
# The figures that are reported

The statistics of a tally consist of averages, of two selections of classes that
stand out, of the names in both, and of the classes above a threshold. They are
refused for one reason only, a percentage that is none, and then whatever was
counted. Everything else is always there: an average may be undefined, and a
selection may be empty.

The names in both selections come in the order of the shorter one. That none of
them comes twice is inherited from the selections, and these inherit it from the
class maps.

## Main results

* `roundsUp_compute`: averages are rounded up, and undefined over nothing.
* `overlap_inBoth`: the names in two selections.
* `finalize_reports`: when statistics are refused, and what they say.
-/

namespace JavaSurvey.Data.OrderedMap

variable {α β : Type} [DecidableEq α]

/-- The value of a key is the value it is listed with. -/
theorem get?_of_mem {map : OrderedMap α β} {entry : α × β} (h : entry ∈ map.entries) :
    map.get? entry.1 = some entry.2 := by
  have hsome : (map.entries.find? fun other => decide (other.1 = entry.1)).isSome = true :=
    List.find?_isSome.2 ⟨entry, h, decide_eq_true rfl⟩
  obtain ⟨found, hfound⟩ := Option.isSome_iff_exists.1 hsome
  have hkey : found.1 = entry.1 := by simpa using List.find?_some hfound
  have hsame : found = entry :=
    List.inj_on_of_nodup_map map.nodup (List.mem_of_find?_eq_some hfound) h hkey
  rw [get?, hfound, hsame, Option.map_some]

end JavaSurvey.Data.OrderedMap

namespace JavaSurvey.Metrics

open Decimal (Double)

/-! ## Averages -/

/-- An average is undefined if there is nothing to divide by, and otherwise the
least number that is enough. -/
def RoundsUp (numerator denominator : Nat) (average : Option Nat) : Prop :=
  (average = none ↔ denominator = 0) ∧
    ∀ a, average = some a → IsLeast {n | numerator ≤ n * denominator} a

theorem isLeast_roundedUp {denominator : Nat} (h : 0 < denominator) (numerator : Nat) :
    IsLeast {n | numerator ≤ n * denominator}
      ((numerator + denominator - 1) / denominator) := by
  constructor
  · have hmod := Nat.mod_lt (numerator + denominator - 1) h
    have hdiv := Nat.div_add_mod' (numerator + denominator - 1) denominator
    show numerator ≤ (numerator + denominator - 1) / denominator * denominator
    omega
  · intro n hn
    have hn : numerator ≤ n * denominator := hn
    have hlt : numerator + denominator - 1 < (n + 1) * denominator := by
      rw [Nat.succ_mul]
      omega
    exact Nat.le_of_lt_succ ((Nat.div_lt_iff_lt_mul h).2 hlt)

theorem roundsUp_compute (totals : Totals) (average : Average) :
    RoundsUp (average.operands totals).1 (average.operands totals).2
      (average.compute totals).toOption := by
  have hcompute : average.compute totals =
      if (average.operands totals).2 = 0 then .error (.divideByZero average)
      else .ok (((average.operands totals).1 + (average.operands totals).2 - 1) /
        (average.operands totals).2) := rfl
  rw [hcompute]
  by_cases hzero : (average.operands totals).2 = 0
  · rw [if_pos hzero]
    exact ⟨iff_of_true rfl hzero, fun a ha => by cases ha⟩
  · rw [if_neg hzero]
    refine ⟨iff_of_false (Option.some_ne_none _) hzero, ?_⟩
    intro a ha
    cases ha
    exact isLeast_roundedUp (Nat.pos_of_ne_zero hzero) _

/-! ## Names of classes -/

/-- The classes above a threshold are the keys with a larger figure, in the order
of the map. -/
theorem moreThan_eq_filter (figures : ClassFigures) (threshold : Nat) :
    moreThan figures threshold =
      figures.keys.filter fun name =>
        (figures.get? name).any fun figure => decide (threshold < figure) := by
  rw [moreThan, Data.OrderedMap.keys, List.filter_map]
  congr 1
  refine List.filter_congr fun entry hentry => ?_
  rw [Function.comp, Data.OrderedMap.get?_of_mem hentry, Option.any_some]

/-- The names in two lists, each once, in the order of the shorter list and of the
first if both are equally long. -/
structure Overlap (first second both : List String) : Prop where
  nodup : both.Nodup
  mem_iff : ∀ name, name ∈ both ↔ name ∈ first ∧ name ∈ second
  sublist_first : first.length ≤ second.length → both.Sublist first
  sublist_second : second.length < first.length → both.Sublist second

theorem overlap_inBoth {first second : List String} (hfirst : first.Nodup)
    (hsecond : second.Nodup) : Overlap first second (inBoth first second) := by
  rw [inBoth]
  by_cases hlength : first.length ≤ second.length
  · rw [if_pos hlength]
    refine ⟨hfirst.filter _, fun name => ?_, fun _ => List.filter_sublist, fun hlt => ?_⟩
    · rw [List.mem_filter, List.contains_iff_mem]
    · omega
  · rw [if_neg hlength]
    refine ⟨hsecond.filter _, fun name => ?_, fun hle => ?_, fun _ => List.filter_sublist⟩
    · rw [List.mem_filter, List.contains_iff_mem, and_comm]
    · omega

/-! ## Statistics -/

/-- What the statistics of a tally say. -/
structure Tally.Reports (tally : Tally) (options : SelectionOptions)
    (statistics : Statistics) : Prop where
  files : statistics.files = tally.files
  totals : statistics.totals = tally.totals
  methodsPerClass : RoundsUp tally.totals.methods tally.totals.classes
    statistics.averages.methodsPerClass
  linesPerMethod : RoundsUp tally.totals.methodLines tally.totals.methods
    statistics.averages.linesPerMethod
  attributesPerClass : RoundsUp tally.totals.attributes tally.totals.classes
    statistics.averages.attributesPerClass
  topByMethods : Selection (shareSize tally.classMethods.size options.percent)
    tally.classMethods statistics.outliers.topByMethods
  topByAttributes : Selection (shareSize tally.classAttributes.size options.percent)
    tally.classAttributes statistics.outliers.topByAttributes
  topInBoth : Overlap statistics.outliers.topByMethods
    statistics.outliers.topByAttributes statistics.outliers.topInBoth
  moreMethodsThanThreshold : statistics.outliers.moreMethodsThanThreshold =
    tally.classMethods.keys.filter fun name =>
      (tally.classMethods.get? name).any fun figure => decide (options.threshold < figure)

theorem reports_statistics (tally : Tally) (options : SelectionOptions) :
    tally.Reports options (tally.statistics options) := by
  have hmethods := selection_topGroups
    (shareSize tally.classMethods.size options.percent) tally.classMethods
  have hattributes := selection_topGroups
    (shareSize tally.classAttributes.size options.percent) tally.classAttributes
  exact
    { files := rfl
      totals := rfl
      methodsPerClass := roundsUp_compute tally.totals .methodsPerClass
      linesPerMethod := roundsUp_compute tally.totals .linesPerMethod
      attributesPerClass := roundsUp_compute tally.totals .attributesPerClass
      topByMethods := hmethods
      topByAttributes := hattributes
      topInBoth := overlap_inBoth hmethods.nodup hattributes.nodup
      moreMethodsThanThreshold := moreThan_eq_filter _ _ }

/-- Statistics are refused exactly if the percentage asked for is not a number from
zero to one hundred, and that is then the reason. Otherwise they report on the
tally. -/
theorem finalize_reports (tally : Tally) (options : SelectionOptions) :
    (∀ error, tally.finalize options = .error error ↔
      error = .invalidPercentage options.percent ∧
        ¬ (Double.ofFloat options.percent).Within 0 100) ∧
    ((∃ statistics, tally.finalize options = .ok statistics ∧
        tally.Reports options statistics) ↔
      (Double.ofFloat options.percent).Within 0 100) := by
  rw [← isPercentage_iff]
  cases hpercent : isPercentage options.percent with
  | true =>
      rw [tally.finalize_of_percentage hpercent]
      refine ⟨fun error => ?_, iff_of_true ⟨_, rfl, reports_statistics tally options⟩ rfl⟩
      refine iff_of_false ?_ fun h => h.2 rfl
      intro h
      cases h
  | false =>
      rw [tally.finalize_of_not_percentage hpercent]
      refine ⟨fun error => ?_, iff_of_false ?_ Bool.false_ne_true⟩
      · rw [Except.error.injEq]
        constructor
        · rintro rfl
          exact ⟨rfl, Bool.false_ne_true⟩
        · rintro ⟨rfl, _⟩
          rfl
      · rintro ⟨statistics, h, _⟩
        cases h

end JavaSurvey.Metrics
