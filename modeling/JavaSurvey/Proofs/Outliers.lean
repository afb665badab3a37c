import JavaSurvey.Metrics.Statistics
import JavaSurvey.Proofs.Collections

/-!
# The selection of outliers

The classes that stand out are selected from class maps, which remember the
order of insertion. The order of a selection follows that order, but which names
are selected does not: a group of equal figures is taken whole or not at all, so
the top groups depend on the figures alone, and so do the classes above a
threshold and the classes in two selections.

## Main results

* `perm_topGroups`, `perm_inBoth`: selections from reordered figures are
  reordered.
* `Tally.finalize_of_percentage`, `Tally.finalize_of_not_percentage`: what the
  statistics consist of, and when they are refused.
-/

namespace JavaSurvey.Metrics

/-! ## Top groups -/

theorem topGroups_zero (entries : List (String × Nat)) :
    topGroups 0 entries = [] := by
  rw [topGroups, if_pos rfl]

theorem topGroups_nil (needed : Nat) : topGroups needed [] = [] := by
  rw [topGroups]
  split <;> rfl

/-- While names are needed, the group with the largest figure comes first. -/
theorem topGroups_of_max {needed top : Nat} {entries : List (String × Nat)}
    (hneeded : needed ≠ 0) (htop : (entries.map Prod.snd).max? = some top) :
    topGroups needed entries =
      (withFigure top entries).map Prod.fst ++
        topGroups (needed - (withFigure top entries).length)
          (withoutFigure top entries) := by
  rw [topGroups, if_neg hneeded]
  split
  next hnone => rw [hnone] at htop; cases htop
  next other hother =>
    obtain rfl : other = top := Option.some.inj (hother.symm.trans htop)
    rfl

/-- The maximum of a list does not depend on its order. -/
theorem max?_eq_of_perm {first second : List Nat} (h : first.Perm second) :
    first.max? = second.max? := by
  cases hmax : first.max? with
  | none =>
      rw [List.max?_eq_none_iff] at hmax
      subst hmax
      rw [List.nil_perm.1 h]
      rfl
  | some top =>
      rw [List.max?_eq_some_iff] at hmax
      obtain ⟨hmem, hbound⟩ := hmax
      symm
      rw [List.max?_eq_some_iff]
      refine ⟨h.mem_iff.1 hmem, ?_⟩
      intro value hvalue
      exact hbound value (h.mem_iff.2 hvalue)

/-- Reordering the entries reorders the top groups: every round sees the same
largest figure and a group of the same size. -/
theorem perm_topGroups {first second : List (String × Nat)} (needed : Nat)
    (h : first.Perm second) :
    (topGroups needed first).Perm (topGroups needed second) := by
  fun_induction topGroups needed first generalizing second with
  | case1 => rw [topGroups_zero]
  | case2 needed first hneeded hmax =>
      rw [List.max?_eq_none_iff, List.map_eq_nil_iff] at hmax
      subst hmax
      rw [List.nil_perm.1 h, topGroups_nil]
  | case3 needed first hneeded top hmax group =>
      rename_i ih
      have htop : (second.map Prod.snd).max? = some top := by
        rw [← max?_eq_of_perm (h.map Prod.snd)]
        exact hmax
      have hgroup : group.Perm (withFigure top second) := h.filter _
      have hrest : (withoutFigure top first).Perm (withoutFigure top second) :=
        h.filter _
      rw [topGroups_of_max hneeded htop, ← hgroup.length_eq]
      exact (hgroup.map Prod.fst).append (ih hrest)

/-! ## The top share -/

theorem topShare_of_percentage (figures : ClassFigures) {percent : Float}
    (h : isPercentage percent = true) :
    topShare figures percent =
      .ok (topGroups (shareSize figures.size percent) figures.entries) :=
  if_pos h

theorem topShare_of_not_percentage (figures : ClassFigures) {percent : Float}
    (h : isPercentage percent = false) :
    topShare figures percent = .error (.invalidPercentage percent) :=
  if_neg (Bool.eq_false_iff.1 h)

/-! ## Names in both lists -/

theorem perm_inBoth {first first' second second' : List String}
    (hfirst : first.Perm first') (hsecond : second.Perm second') :
    (inBoth first second).Perm (inBoth first' second') := by
  have hinFirst : ∀ name, first.contains name = first'.contains name := by
    intro name
    rw [Bool.eq_iff_iff, List.contains_iff_mem, List.contains_iff_mem,
      hfirst.mem_iff]
  have hinSecond : ∀ name, second.contains name = second'.contains name := by
    intro name
    rw [Bool.eq_iff_iff, List.contains_iff_mem, List.contains_iff_mem,
      hsecond.mem_iff]
  -- The lengths agree, so both sides take their order from the same list.
  rw [inBoth, inBoth, ← hfirst.length_eq, ← hsecond.length_eq,
    ← funext hinFirst, ← funext hinSecond]
  split
  · exact hfirst.filter _
  · exact hsecond.filter _

/-! ## Statistics -/

/-- The statistics of a tally, given how many classes make up the top share. -/
def Tally.statistics (tally : Tally) (options : SelectionOptions) :
    Statistics :=
  let topByMethods :=
    topGroups (shareSize tally.classMethods.size options.percent)
      tally.classMethods.entries
  let topByAttributes :=
    topGroups (shareSize tally.classAttributes.size options.percent)
      tally.classAttributes.entries
  { files := tally.files
    totals := tally.totals
    averages := .ofTotals tally.totals
    outliers :=
      { percent := options.percent
        threshold := options.threshold
        topByMethods := topByMethods
        topByAttributes := topByAttributes
        topInBoth := inBoth topByMethods topByAttributes
        moreMethodsThanThreshold :=
          moreThan tally.classMethods options.threshold } }

theorem Tally.finalize_of_percentage (tally : Tally)
    {options : SelectionOptions} (h : isPercentage options.percent = true) :
    tally.finalize options = .ok (tally.statistics options) := by
  rw [finalize, topShare_of_percentage _ h, topShare_of_percentage _ h]
  rfl

theorem Tally.finalize_of_not_percentage (tally : Tally)
    {options : SelectionOptions} (h : isPercentage options.percent = false) :
    tally.finalize options = .error (.invalidPercentage options.percent) := by
  rw [finalize, topShare_of_not_percentage _ h]
  rfl

end JavaSurvey.Metrics
