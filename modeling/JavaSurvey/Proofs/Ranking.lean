import JavaSurvey.Proofs.Outliers

/-!
# Top groups in the ranking of classes

The ranking of a class map lists its entries by decreasing figure, and entries
with equal figures in the order of the map. A ranking is settled by its groups:
a list that is sorted by figure and has, for every figure, the group of the map
is the ranking. So the ranking starts with the group of the largest figure and
goes on with the ranking of the other entries, which is also how the top groups
are collected.

The top groups are then a beginning of the ranking. It ends behind the group of
the cutoff, the figure in the place of the last entry that is needed.

## Main results

* `IsRanking.eq`: groups and order settle a ranking.
* `ranked_eq_append`: the ranking from the largest figure down.
* `exists_upToCutoff`: the top groups are the entries from a cutoff up.
* `selection_topGroups`, `Selection.eq`: the top groups are the one selection of as
  many names.
* `topGroups_selection`: what is selected, and by which percentage.
-/

namespace JavaSurvey.Metrics

/-! ## The ranking -/

/-- Entries by decreasing figure; entries with equal figures stay in order. -/
def ranked (entries : List (String × Nat)) : List (String × Nat) :=
  entries.mergeSort fun a b => decide (b.2 ≤ a.2)

/-- Two entries in the order of the ranking of `entries`: by decreasing figure,
or with equal figures and in the order of `entries`. -/
def InRank (entries : List (String × Nat)) (a b : String × Nat) : Prop :=
  b.2 < a.2 ∨ a.2 = b.2 ∧ [a, b].Sublist entries

/-- A list by decreasing figure that has the groups of `entries`. -/
structure IsRanking (entries ranking : List (String × Nat)) : Prop where
  descending : ranking.Pairwise fun a b => b.2 ≤ a.2
  group : ∀ figure, withFigure figure ranking = withFigure figure entries

theorem mem_withFigure {figure : Nat} {entries : List (String × Nat)}
    {entry : String × Nat} :
    entry ∈ withFigure figure entries ↔ entry ∈ entries ∧ entry.2 = figure := by
  simp [withFigure]

theorem withFigure_cons_self (entry : String × Nat)
    (entries : List (String × Nat)) :
    withFigure entry.2 (entry :: entries) =
      entry :: withFigure entry.2 entries := by
  simp [withFigure]

theorem withFigure_withFigure (figure : Nat) (entries : List (String × Nat)) :
    withFigure figure (withFigure figure entries) = withFigure figure entries := by
  simp [withFigure]

/-- The entries of a group have the same figure. -/
theorem pairwise_withFigure (figure : Nat) (entries : List (String × Nat)) :
    (withFigure figure entries).Pairwise fun a b => a.2 = b.2 := by
  rw [List.pairwise_iff_forall_sublist]
  intro a b hsub
  have ha := (mem_withFigure.1 (hsub.subset (by simp : a ∈ [a, b]))).2
  have hb := (mem_withFigure.1 (hsub.subset (by simp : b ∈ [a, b]))).2
  omega

private theorem rank_trans (a b c : String × Nat)
    (hab : decide (b.2 ≤ a.2) = true) (hbc : decide (c.2 ≤ b.2) = true) :
    decide (c.2 ≤ a.2) = true := by
  simp only [decide_eq_true_eq] at hab hbc ⊢
  omega

private theorem rank_total (a b : String × Nat) :
    (decide (b.2 ≤ a.2) || decide (a.2 ≤ b.2)) = true := by
  simp only [Bool.or_eq_true, decide_eq_true_eq]
  omega

theorem pairwise_ranked (entries : List (String × Nat)) :
    (ranked entries).Pairwise fun a b => b.2 ≤ a.2 := by
  have hsorted := List.pairwise_mergeSort rank_trans rank_total entries
  apply hsorted.imp
  intro a b hab
  exact of_decide_eq_true hab

theorem perm_ranked (entries : List (String × Nat)) :
    (ranked entries).Perm entries :=
  List.mergeSort_perm entries _

/-- Sorting leaves a group as it is: a group is sorted already, so it is found
in order among the sorted entries, and there are no more of its figure. -/
theorem withFigure_ranked (figure : Nat) (entries : List (String × Nat)) :
    withFigure figure (ranked entries) = withFigure figure entries := by
  have hsorted : (withFigure figure entries).Pairwise
      fun a b => decide (b.2 ≤ a.2) = true := by
    apply (pairwise_withFigure figure entries).imp
    intro a b hab
    exact decide_eq_true (Nat.le_of_eq hab.symm)
  have hsub : (withFigure figure entries).Sublist (ranked entries) :=
    List.sublist_mergeSort rank_trans rank_total hsorted List.filter_sublist
  have hgroup : (withFigure figure entries).Sublist
      (withFigure figure (ranked entries)) := by
    rw [← withFigure_withFigure figure entries]
    exact hsub.filter _
  have hlength : (withFigure figure entries).length =
      (withFigure figure (ranked entries)).length :=
    ((perm_ranked entries).filter _).length_eq.symm
  exact (hgroup.eq_of_length hlength).symm

theorem isRanking_ranked (entries : List (String × Nat)) :
    IsRanking entries (ranked entries) :=
  ⟨pairwise_ranked entries, fun figure => withFigure_ranked figure entries⟩

/-- The first entry of a sorted list has the largest figure of all entries that
the list shares groups with. -/
theorem le_head_of_groups {a b : String × Nat} {first second : List (String × Nat)}
    (hsorted : (b :: second).Pairwise fun a b => b.2 ≤ a.2)
    (hgroup : withFigure a.2 (a :: first) = withFigure a.2 (b :: second)) :
    a.2 ≤ b.2 := by
  have hmem : a ∈ withFigure a.2 (b :: second) := by
    rw [← hgroup, withFigure_cons_self]
    exact List.mem_cons_self
  rw [mem_withFigure, List.mem_cons] at hmem
  rcases hmem.1 with rfl | hrest
  · exact Nat.le_refl _
  · exact List.rel_of_pairwise_cons hsorted hrest

/-- Groups and order settle a ranking. -/
theorem IsRanking.eq {entries first second : List (String × Nat)}
    (hfirst : IsRanking entries first) (hsecond : IsRanking entries second) :
    first = second := by
  have hgroups : ∀ figure, withFigure figure first = withFigure figure second :=
    fun figure => (hfirst.group figure).trans (hsecond.group figure).symm
  have hdescending := hfirst.descending
  have hdescending' := hsecond.descending
  clear hfirst hsecond
  induction first generalizing second with
  | nil =>
      cases second with
      | nil => rfl
      | cons b second =>
          have hgroup := hgroups b.2
          rw [withFigure_cons_self] at hgroup
          cases hgroup
  | cons a first ih =>
      cases second with
      | nil =>
          have hgroup := hgroups a.2
          rw [withFigure_cons_self] at hgroup
          cases hgroup
      | cons b second =>
          have hfigure : a.2 = b.2 := Nat.le_antisymm
            (le_head_of_groups hdescending' (hgroups a.2))
            (le_head_of_groups hdescending (hgroups b.2).symm)
          have hhead := hgroups a.2
          rw [withFigure_cons_self, hfigure, withFigure_cons_self] at hhead
          obtain ⟨rfl, -⟩ := List.cons.inj hhead
          have hrest : ∀ figure,
              withFigure figure first = withFigure figure second := by
            intro figure
            have hgroup := hgroups figure
            simp only [withFigure, List.filter_cons] at hgroup ⊢
            split at hgroup
            · exact (List.cons.inj hgroup).2
            · exact hgroup
          rw [ih hrest hdescending.of_cons hdescending'.of_cons]

/-- An entry stands in the ranking before those that follow it in rank. -/
theorem pairwise_inRank_ranked (entries : List (String × Nat)) :
    (ranked entries).Pairwise (InRank entries) := by
  rw [List.pairwise_iff_forall_sublist]
  intro a b hsub
  have hle : b.2 ≤ a.2 := (pairwise_ranked entries).forall_sublist hsub
  rcases Nat.lt_or_eq_of_le hle with hlt | heq
  · exact .inl hlt
  · have hgroup := hsub.filter fun entry => entry.2 == a.2
    have hpair : [a, b].filter (fun entry => entry.2 == a.2) = [a, b] := by
      simp [heq]
    rw [hpair] at hgroup
    have hentries : [a, b].Sublist (withFigure a.2 entries) := by
      rw [← withFigure_ranked]
      exact hgroup
    exact .inr ⟨heq.symm, hentries.trans List.filter_sublist⟩

/-! ## The ranking from the largest figure down -/

section Largest

variable {entries : List (String × Nat)} {top : Nat}

theorem le_of_max? (htop : (entries.map Prod.snd).max? = some top)
    {entry : String × Nat} (hentry : entry ∈ entries) : entry.2 ≤ top := by
  rw [List.max?_eq_some_iff] at htop
  exact htop.2 entry.2 (List.mem_map_of_mem hentry)

theorem lt_of_mem_withoutFigure (htop : (entries.map Prod.snd).max? = some top)
    {entry : String × Nat} (hentry : entry ∈ withoutFigure top entries) :
    entry.2 < top := by
  rw [withoutFigure, List.mem_filter, bne_iff_ne] at hentry
  have hle := le_of_max? htop hentry.1
  omega

theorem length_withFigure_pos (htop : (entries.map Prod.snd).max? = some top) :
    0 < (withFigure top entries).length := by
  obtain ⟨entry, hentry, hfigure⟩ := List.mem_map.1 (List.max?_mem htop)
  exact List.length_pos_of_mem (mem_withFigure.2 ⟨hentry, hfigure⟩)

theorem length_withFigure_add_length_withoutFigure :
    (withFigure top entries).length + (withoutFigure top entries).length =
      entries.length := by
  have hsplit := List.length_eq_length_filter_add
    (fun entry : String × Nat => entry.2 == top) (l := entries)
  simpa [withFigure, withoutFigure, bne] using hsplit.symm

theorem withFigure_append (figure : Nat) (first second : List (String × Nat)) :
    withFigure figure (first ++ second) =
      withFigure figure first ++ withFigure figure second :=
  List.filter_append _ _

/-- Setting a group aside and taking the groups of both parts changes no group. -/
theorem withFigure_split (figure : Nat) :
    withFigure figure (withFigure top entries) ++
        withFigure figure (withoutFigure top entries) =
      withFigure figure entries := by
  by_cases hfigure : figure = top
  · subst hfigure
    have hnone : withFigure figure (withoutFigure figure entries) = [] := by
      simp [withFigure, withoutFigure, List.filter_eq_nil_iff]
    rw [withFigure_withFigure, hnone, List.append_nil]
  · have hnone : withFigure figure (withFigure top entries) = [] := by
      rw [List.eq_nil_iff_forall_not_mem]
      intro entry hentry
      rw [mem_withFigure, mem_withFigure] at hentry
      omega
    have hall : withFigure figure (withoutFigure top entries) =
        withFigure figure entries := by
      simp only [withFigure, withoutFigure, List.filter_filter]
      apply List.filter_congr
      intro entry _
      by_cases hentry : entry.2 = figure
      · simp [hentry, hfigure]
      · simp [hentry]
    rw [hnone, hall, List.nil_append]

/-- The ranking starts with the group of the largest figure. -/
theorem ranked_eq_append (htop : (entries.map Prod.snd).max? = some top) :
    ranked entries =
      withFigure top entries ++ ranked (withoutFigure top entries) := by
  apply (isRanking_ranked entries).eq
  constructor
  · rw [List.pairwise_append]
    refine ⟨?_, pairwise_ranked _, ?_⟩
    · apply (pairwise_withFigure top entries).imp
      intro a b hab
      exact Nat.le_of_eq hab.symm
    · intro a ha b hb
      have hfigure := (mem_withFigure.1 ha).2
      have hlt := lt_of_mem_withoutFigure htop ((perm_ranked _).mem_iff.1 hb)
      omega
  · intro figure
    rw [withFigure_append, withFigure_ranked, withFigure_split]

end Largest

/-! ## The cutoff -/

/-- The value in a place, counted from one, when values are listed from the
largest down. -/
def nthLargest? (place : Nat) (values : List Nat) : Option Nat :=
  (values.mergeSort fun a b => decide (b ≤ a))[place - 1]?

/-- The entries with the figure `cutoff` or a larger one. -/
def atLeast (cutoff : Nat) (entries : List (String × Nat)) :
    List (String × Nat) :=
  entries.filter fun entry => decide (cutoff ≤ entry.2)

theorem mem_atLeast {cutoff : Nat} {entries : List (String × Nat)}
    {entry : String × Nat} :
    entry ∈ atLeast cutoff entries ↔ entry ∈ entries ∧ cutoff ≤ entry.2 := by
  simp [atLeast]

/-- The n-th largest figure is the figure of the n-th entry of the ranking. -/
theorem nthLargest?_eq (place : Nat) (entries : List (String × Nat)) :
    nthLargest? place (entries.map Prod.snd) =
      ((ranked entries).map Prod.snd)[place - 1]? := by
  rw [nthLargest?, ranked, List.map_mergeSort]
  intro a _ b _
  rfl

theorem atLeast_of_forall {cutoff : Nat} {entries : List (String × Nat)}
    (h : ∀ entry ∈ entries, cutoff ≤ entry.2) : atLeast cutoff entries = entries := by
  rw [atLeast, List.filter_eq_self]
  intro entry hentry
  exact decide_eq_true (h entry hentry)

theorem atLeast_of_forall_lt {cutoff : Nat} {entries : List (String × Nat)}
    (h : ∀ entry ∈ entries, entry.2 < cutoff) : atLeast cutoff entries = [] := by
  rw [atLeast, List.filter_eq_nil_iff]
  intro entry hentry
  have hlt := h entry hentry
  simp only [decide_eq_true_eq]
  omega

theorem atLeast_append (cutoff : Nat) (first second : List (String × Nat)) :
    atLeast cutoff (first ++ second) =
      atLeast cutoff first ++ atLeast cutoff second :=
  List.filter_append _ _

section Largest

variable {entries : List (String × Nat)} {top : Nat}

/-- A place within the group of the largest figure has that figure. -/
theorem nthLargest?_of_le (htop : (entries.map Prod.snd).max? = some top)
    {place : Nat} (hplace : place ≤ (withFigure top entries).length) :
    nthLargest? place (entries.map Prod.snd) = some top := by
  have hpos := length_withFigure_pos htop
  have hindex : place - 1 < (withFigure top entries).length := by omega
  rw [nthLargest?_eq, ranked_eq_append htop, List.map_append,
    List.getElem?_append_left (by simpa using hindex), List.getElem?_map,
    List.getElem?_eq_getElem hindex]
  have hmem := List.getElem_mem hindex
  exact congrArg some (mem_withFigure.1 hmem).2

/-- Places behind the group of the largest figure are places among the others. -/
theorem nthLargest?_of_lt (htop : (entries.map Prod.snd).max? = some top)
    {place : Nat} (hplace : (withFigure top entries).length < place) :
    nthLargest? place (entries.map Prod.snd) =
      nthLargest? (place - (withFigure top entries).length)
        ((withoutFigure top entries).map Prod.snd) := by
  have hindex : place - 1 - (withFigure top entries).length =
      place - (withFigure top entries).length - 1 := by omega
  rw [nthLargest?_eq, nthLargest?_eq, ranked_eq_append htop, List.map_append,
    List.getElem?_append_right (by rw [List.length_map]; omega), List.length_map,
    hindex]

/-- Of the largest figure there is its group, and of larger ones nothing. -/
theorem atLeast_ranked_top (htop : (entries.map Prod.snd).max? = some top) :
    atLeast top (ranked entries) = withFigure top entries ∧
      atLeast (top + 1) (ranked entries) = [] := by
  have hgroup : atLeast top (withFigure top entries) = withFigure top entries := by
    apply atLeast_of_forall
    intro entry hentry
    exact Nat.le_of_eq (mem_withFigure.1 hentry).2.symm
  have hrest : atLeast top (ranked (withoutFigure top entries)) = [] := by
    apply atLeast_of_forall_lt
    intro entry hentry
    exact lt_of_mem_withoutFigure htop ((perm_ranked _).mem_iff.1 hentry)
  constructor
  · rw [ranked_eq_append htop, atLeast_append, hgroup, hrest, List.append_nil]
  · apply atLeast_of_forall_lt
    intro entry hentry
    have hle := le_of_max? htop ((perm_ranked _).mem_iff.1 hentry)
    omega

/-- Below the largest figure, its group comes before what is found among the
others. -/
theorem atLeast_ranked_of_le (htop : (entries.map Prod.snd).max? = some top)
    {cutoff : Nat} (hcutoff : cutoff ≤ top) :
    atLeast cutoff (ranked entries) =
      withFigure top entries ++
        atLeast cutoff (ranked (withoutFigure top entries)) := by
  have hgroup : atLeast cutoff (withFigure top entries) =
      withFigure top entries := by
    apply atLeast_of_forall
    intro entry hentry
    have hfigure := (mem_withFigure.1 hentry).2
    omega
  rw [ranked_eq_append htop, atLeast_append, hgroup]

end Largest

/-- The n-th largest of some figures is one of them. -/
theorem exists_of_nthLargest? {place figure : Nat} {entries : List (String × Nat)}
    (h : nthLargest? place (entries.map Prod.snd) = some figure) :
    ∃ entry ∈ entries, entry.2 = figure := by
  rw [nthLargest?_eq] at h
  obtain ⟨entry, hentry, hfigure⟩ := List.mem_map.1 (List.mem_of_getElem? h)
  exact ⟨entry, (perm_ranked entries).mem_iff.1 hentry, hfigure⟩

/-- What the top groups needed from some entries are: the part of the ranking
from the cutoff up, which without the group of the cutoff is too short. -/
def UpToCutoff (needed : Nat) (entries : List (String × Nat)) (cutoff : Nat) :
    Prop :=
  nthLargest? (min needed entries.length) (entries.map Prod.snd) = some cutoff ∧
    topGroups needed entries = (atLeast cutoff (ranked entries)).map Prod.fst ∧
    (atLeast (cutoff + 1) (ranked entries)).length < needed

/-- If nothing more is needed behind the group of the largest figure, or nothing
is left there, the top groups end with it. -/
theorem upToCutoff_top {needed top : Nat} {entries : List (String × Nat)}
    (hneeded : needed ≠ 0) (htop : (entries.map Prod.snd).max? = some top)
    (hplace : min needed entries.length ≤ (withFigure top entries).length)
    (hend : topGroups (needed - (withFigure top entries).length)
      (withoutFigure top entries) = []) :
    UpToCutoff needed entries top := by
  obtain ⟨hgroup, hlarger⟩ := atLeast_ranked_top htop
  refine ⟨nthLargest?_of_le htop hplace, ?_, ?_⟩
  · rw [topGroups_of_max hneeded htop, hend, List.append_nil, hgroup]
  · rw [hlarger]
    exact Nat.pos_of_ne_zero hneeded

/-- The top groups end behind the group of the cutoff. The recursion is that of
the search: after the group of the largest figure, the cutoff is that of the
other entries. -/
theorem exists_upToCutoff {needed : Nat} {entries : List (String × Nat)}
    (hneeded : needed ≠ 0) (hentries : entries ≠ []) :
    ∃ cutoff, UpToCutoff needed entries cutoff := by
  fun_induction topGroups needed entries with
  | case1 => exact absurd rfl hneeded
  | case2 needed entries _ hmax =>
      rw [List.max?_eq_none_iff, List.map_eq_nil_iff] at hmax
      exact absurd hmax hentries
  | case3 needed entries _ top htop group =>
      rename_i ih
      have hcount : group.length + (withoutFigure top entries).length =
          entries.length := length_withFigure_add_length_withoutFigure
      by_cases hmore : needed - group.length = 0
      · refine ⟨top, upToCutoff_top hneeded htop ?_ ?_⟩
        · exact Nat.le_trans (Nat.min_le_left _ _) (Nat.sub_eq_zero_iff_le.1 hmore)
        · show topGroups (needed - group.length) _ = []
          rw [hmore, topGroups_zero]
      by_cases hrest : withoutFigure top entries = []
      · refine ⟨top, upToCutoff_top hneeded htop ?_ ?_⟩
        · rw [hrest, List.length_nil] at hcount
          show _ ≤ group.length
          omega
        · rw [hrest, topGroups_nil]
      obtain ⟨cutoff, hplace, hgroups, hshort⟩ := ih hmore hrest
      have hlength := List.length_pos_of_ne_nil hrest
      have hsmaller : cutoff < top := by
        obtain ⟨entry, hentry, rfl⟩ := exists_of_nthLargest? hplace
        exact lt_of_mem_withoutFigure htop hentry
      refine ⟨cutoff, ?_, ?_, ?_⟩
      · have hmin : min needed entries.length - group.length =
            min (needed - group.length) (withoutFigure top entries).length := by
          omega
        rw [nthLargest?_of_lt htop (by show group.length < _; omega)]
        show nthLargest? (min needed entries.length - group.length) _ = _
        rw [hmin]
        exact hplace
      · rw [topGroups_of_max hneeded htop,
          atLeast_ranked_of_le htop (Nat.le_of_lt hsmaller), List.map_append]
        exact congrArg _ hgroups
      · have hnext : cutoff + 1 ≤ top := hsmaller
        rw [atLeast_ranked_of_le htop hnext, List.length_append]
        show group.length + _ < needed
        omega

/-! ## The selection -/

/-- In a ranking, the entries from a cutoff up come first. -/
theorem atLeast_isPrefix {cutoff : Nat} {entries : List (String × Nat)}
    (h : entries.Pairwise fun a b => b.2 ≤ a.2) :
    atLeast cutoff entries <+: entries := by
  induction entries with
  | nil => exact List.nil_prefix
  | cons entry entries ih =>
      by_cases hentry : cutoff ≤ entry.2
      · have hcons : atLeast cutoff (entry :: entries) =
            entry :: atLeast cutoff entries := by
          simp [atLeast, hentry]
        rw [hcons]
        exact List.cons_prefix_cons.2 ⟨rfl, ih h.of_cons⟩
      · have hnone : atLeast cutoff (entry :: entries) = [] := by
          apply atLeast_of_forall_lt
          intro other hother
          rcases List.mem_cons.1 hother with rfl | hother
          · omega
          · have hle := List.rel_of_pairwise_cons h hother
            omega
        rw [hnone]
        exact List.nil_prefix

/-- The first entries of the ranking, up to the place of the cutoff, have at
least its figure. -/
theorem le_length_atLeast_ranked {place cutoff : Nat}
    {entries : List (String × Nat)} (hplace : place ≤ entries.length)
    (h : nthLargest? place (entries.map Prod.snd) = some cutoff) :
    place ≤ (atLeast cutoff (ranked entries)).length := by
  rw [nthLargest?_eq, List.getElem?_map, Option.map_eq_some_iff] at h
  obtain ⟨last, hlast, rfl⟩ := h
  obtain ⟨hindex, rfl⟩ := List.getElem?_eq_some_iff.1 hlast
  have hfirst : ∀ entry ∈ (ranked entries).take place,
      ((ranked entries)[place - 1]).2 ≤ entry.2 := by
    intro entry hentry
    obtain ⟨i, hi, rfl⟩ := List.mem_take_iff_getElem.1 hentry
    rcases Nat.lt_or_ge i (place - 1) with hlt | hge
    · exact List.pairwise_iff_getElem.1 (pairwise_ranked entries) i (place - 1)
        (by omega) hindex hlt
    · have heq : i = place - 1 := by omega
      subst heq
      exact Nat.le_refl _
  have hlength : (ranked entries).length = entries.length :=
    (perm_ranked entries).length_eq
  calc
    place = ((ranked entries).take place).length := by
      rw [List.length_take, hlength, Nat.min_eq_left hplace]
    _ = (atLeast ((ranked entries)[place - 1]).2
          ((ranked entries).take place)).length := by
      rw [atLeast_of_forall hfirst]
    _ ≤ (atLeast ((ranked entries)[place - 1]).2 (ranked entries)).length :=
      ((List.take_sublist _ _).filter _).length_le

theorem withoutFigure_atLeast (cutoff : Nat) (entries : List (String × Nat)) :
    withoutFigure cutoff (atLeast cutoff entries) =
      atLeast (cutoff + 1) entries := by
  simp only [withoutFigure, atLeast, List.filter_filter]
  apply List.filter_congr
  intro entry _
  rw [Bool.eq_iff_iff]
  simp only [Bool.and_eq_true, bne_iff_ne, decide_eq_true_eq]
  omega

/-- The entries from the n-th largest figure up end with that figure. -/
theorem getLast?_atLeast_ranked {place cutoff : Nat}
    {entries : List (String × Nat)}
    (h : nthLargest? place (entries.map Prod.snd) = some cutoff) :
    (atLeast cutoff (ranked entries)).getLast?.map Prod.snd = some cutoff := by
  obtain ⟨entry, hentry, hfigure⟩ := exists_of_nthLargest? h
  have hchosen : entry ∈ atLeast cutoff (ranked entries) :=
    mem_atLeast.2 ⟨(perm_ranked entries).mem_iff.2 hentry, by omega⟩
  have hsorted : (atLeast cutoff (ranked entries)).Pairwise
      fun a b => b.2 ≤ a.2 := (pairwise_ranked entries).filter _
  rcases List.eq_nil_or_concat' (atLeast cutoff (ranked entries)) with
    hnil | ⟨before, last, hlast⟩
  · rw [hnil] at hchosen
    cases hchosen
  · have hge : cutoff ≤ last.2 :=
      (mem_atLeast.1 (hlast ▸ List.mem_append_right before
        (List.mem_singleton_self last))).2
    rw [hlast] at hchosen hsorted ⊢
    have hle : last.2 ≤ entry.2 := by
      rcases List.mem_append.1 hchosen with hbefore | hsame
      · exact (List.pairwise_append.1 hsorted).2.2 entry hbefore last
          (List.mem_singleton_self last)
      · rw [List.mem_singleton.1 hsame]
    rw [List.getLast?_concat]
    exact congrArg some (by omega)

/-- What is selected from a class map when `needed` names are asked for. -/
structure Selection (needed : Nat) (figures : ClassFigures)
    (selected : List String) : Prop where
  /-- Nothing, if nothing is asked for or there is nothing. -/
  nothing : needed = 0 ∨ figures.entries = [] → selected = []
  /-- Otherwise the entries from the cutoff up, in the order of the ranking. The
  last group is the one with the figure of the cutoff, and without it there are
  fewer names than needed. -/
  upToCutoff : needed ≠ 0 → figures.entries ≠ [] →
    ∃ cutoff chosen,
      nthLargest? (min needed figures.size) (figures.entries.map Prod.snd) =
          some cutoff ∧
        selected = chosen.map Prod.fst ∧
        (∀ entry, entry ∈ chosen ↔ entry ∈ figures.entries ∧ cutoff ≤ entry.2) ∧
        chosen.Pairwise (InRank figures.entries) ∧
        (chosen.getLast?).map Prod.snd = some cutoff ∧
        (withoutFigure cutoff chosen).length < needed
  /-- The selection is a beginning of the stable sort by decreasing figure. -/
  isPrefix : selected <+: (ranked figures.entries).map Prod.fst
  nodup : selected.Nodup
  /-- Entries with equal figures are selected together or not at all. -/
  whole_groups : ∀ a ∈ figures.entries, ∀ b ∈ figures.entries, a.2 = b.2 →
    (a.1 ∈ selected ↔ b.1 ∈ selected)
  enough : min needed figures.size ≤ selected.length

/-- In a class map, a selected name is the name of a selected entry. -/
theorem mem_names_iff {figures : ClassFigures} {entry : String × Nat}
    {chosen : List (String × Nat)} (hchosen : chosen ⊆ figures.entries)
    (hentry : entry ∈ figures.entries) :
    entry.1 ∈ chosen.map Prod.fst ↔ entry ∈ chosen := by
  constructor
  · intro hname
    obtain ⟨other, hother, hsame⟩ := List.mem_map.1 hname
    have heq : other = entry :=
      List.inj_on_of_nodup_map figures.nodup (hchosen hother) hentry hsame
    exact heq ▸ hother
  · intro hmem
    exact List.mem_map_of_mem hmem

theorem nodup_names_ranked (figures : ClassFigures) :
    ((ranked figures.entries).map Prod.fst).Nodup :=
  ((perm_ranked figures.entries).map Prod.fst).nodup_iff.2 figures.nodup

theorem selection_nil {needed : Nat} {figures : ClassFigures}
    (h : needed = 0 ∨ figures.entries = []) : Selection needed figures [] where
  nothing := fun _ => rfl
  upToCutoff := by
    intro hneeded hentries
    exact absurd h (not_or.2 ⟨hneeded, hentries⟩)
  isPrefix := List.nil_prefix
  nodup := List.nodup_nil
  whole_groups := by simp
  enough := by
    rcases h with rfl | hentries
    · simp
    · simp [Data.OrderedMap.size, hentries]

theorem selection_of_upToCutoff {needed cutoff : Nat} {figures : ClassFigures}
    (hneeded : needed ≠ 0) (hentries : figures.entries ≠ [])
    (h : UpToCutoff needed figures.entries cutoff) :
    Selection needed figures (topGroups needed figures.entries) := by
  obtain ⟨hplace, hgroups, hshort⟩ := h
  have hranking := perm_ranked figures.entries
  have hmem : ∀ entry, entry ∈ atLeast cutoff (ranked figures.entries) ↔
      entry ∈ figures.entries ∧ cutoff ≤ entry.2 := by
    intro entry
    rw [mem_atLeast, hranking.mem_iff]
  have hsubset : atLeast cutoff (ranked figures.entries) ⊆ figures.entries :=
    fun entry hentry => ((hmem entry).1 hentry).1
  have hinitial : atLeast cutoff (ranked figures.entries) <+:
      ranked figures.entries := atLeast_isPrefix (pairwise_ranked _)
  rw [hgroups]
  refine
    { nothing := ?_
      upToCutoff := ?_
      isPrefix := hinitial.map Prod.fst
      nodup := ?_
      whole_groups := ?_
      enough := ?_ }
  · intro hnothing
    exact absurd hnothing (not_or.2 ⟨hneeded, hentries⟩)
  · intro _ _
    refine ⟨cutoff, atLeast cutoff (ranked figures.entries), hplace, rfl, hmem,
      (pairwise_inRank_ranked _).filter _, getLast?_atLeast_ranked hplace, ?_⟩
    rw [withoutFigure_atLeast]
    exact hshort
  · exact (nodup_names_ranked figures).sublist (hinitial.map Prod.fst).sublist
  · intro a ha b hb hsame
    rw [mem_names_iff hsubset ha, mem_names_iff hsubset hb, hmem, hmem, hsame]
    simp only [ha, hb]
  · rw [List.length_map]
    exact le_length_atLeast_ranked (Nat.min_le_right _ _) hplace

/-- The top groups of a class map are a selection from it. -/
theorem selection_topGroups (needed : Nat) (figures : ClassFigures) :
    Selection needed figures (topGroups needed figures.entries) := by
  by_cases hneeded : needed = 0
  · rw [hneeded, topGroups_zero]
    exact selection_nil (.inl rfl)
  by_cases hentries : figures.entries = []
  · rw [hentries, topGroups_nil]
    exact selection_nil (.inr hentries)
  obtain ⟨cutoff, hcutoff⟩ := exists_upToCutoff hneeded hentries
  exact selection_of_upToCutoff hneeded hentries hcutoff

/-- There is only one selection: its names are those from the cutoff up, and it is
a beginning of the ranking. -/
theorem Selection.eq {needed : Nat} {figures : ClassFigures}
    {first second : List String} (hfirst : Selection needed figures first)
    (hsecond : Selection needed figures second) : first = second := by
  by_cases hnothing : needed = 0 ∨ figures.entries = []
  · rw [hfirst.nothing hnothing, hsecond.nothing hnothing]
  obtain ⟨hneeded, hentries⟩ := not_or.1 hnothing
  obtain ⟨cutoff, chosen, hcutoff, hnames, hchosen, -⟩ :=
    hfirst.upToCutoff hneeded hentries
  obtain ⟨cutoff', chosen', hcutoff', hnames', hchosen', -⟩ :=
    hsecond.upToCutoff hneeded hentries
  obtain rfl : cutoff = cutoff' := Option.some.inj (hcutoff.symm.trans hcutoff')
  have hmem : ∀ name, name ∈ first ↔ name ∈ second := by
    intro name
    simp only [hnames, hnames', List.mem_map, hchosen, hchosen']
  have hlength : first.length = second.length :=
    ((List.perm_ext_iff_of_nodup hfirst.nodup hsecond.nodup).2 hmem).length_eq
  have hshared : first <+: second :=
    List.prefix_of_prefix_length_le hfirst.isPrefix hsecond.isPrefix
      (Nat.le_of_eq hlength)
  exact hshared.eq_of_length hlength

/-- However many names are needed from a class map, its top groups are the one
selection of so many. A percentage asks for the top groups of the number it makes
of the size of the map, and anything else is refused. -/
theorem topGroups_selection (figures : ClassFigures) :
    (∀ needed selected, Selection needed figures selected ↔
      selected = topGroups needed figures.entries) ∧
    (∀ percent, isPercentage percent = true →
      topShare figures percent =
        .ok (topGroups (shareSize figures.size percent) figures.entries)) ∧
    ∀ percent, isPercentage percent = false →
      topShare figures percent = .error (.invalidPercentage percent) := by
  refine ⟨?_, fun _ => topShare_of_percentage figures,
    fun _ => topShare_of_not_percentage figures⟩
  intro needed selected
  constructor
  · intro h
    exact h.eq (selection_topGroups needed figures)
  · rintro rfl
    exact selection_topGroups needed figures

/-- Four classes, two of them with the largest figure. -/
def tiedFigures : ClassFigures where
  entries := [("Beta", 1), ("Alpha", 3), ("Delta", 2), ("Gamma", 3)]
  nodup := by decide

/-- A quarter of four classes is one class, but the two largest are alike. -/
theorem topGroups_selection_tied :
    isPercentage 25.0 = true ∧ shareSize tiedFigures.size 25.0 = 1 ∧
      topShare tiedFigures 25.0 = .ok ["Alpha", "Gamma"] ∧
      Selection 1 tiedFigures ["Alpha", "Gamma"] := by
  have hpercent : isPercentage 25.0 = true := by decide +kernel
  have hsize : shareSize tiedFigures.size 25.0 = 1 := by decide +kernel
  have hgroups : ["Alpha", "Gamma"] = topGroups 1 tiedFigures.entries := by
    decide +kernel
  obtain ⟨hselection, hshare, -⟩ := topGroups_selection tiedFigures
  refine ⟨hpercent, hsize, ?_, (hselection _ _).2 hgroups⟩
  rw [hshare _ hpercent, hsize, hgroups]

end JavaSurvey.Metrics
