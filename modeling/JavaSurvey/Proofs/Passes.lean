import JavaSurvey.Analysis.Sources
import JavaSurvey.Proofs.Collections

/-!
# Passes over files

A pass interleaves two things that can fail: the analysis of a file and the
consumer of the analysed files. They can be told apart. The consumer is only
ever handed the analysed files in order, until it fails (`feed`), and a pass
adds to that which files it counts, which it skips and where it stops.

A lenient pass hands over everything that can be analysed. A strict pass hands
over everything up to the first file that cannot, so both are the same pass if
there is no such file.

## Main results

* `passOver_lenient`: what a lenient pass comes to.
* `passOver_append_of_parsed`: what either pass does with files that can all be
  analysed, and with what follows them.
* `passLaws`: the two kinds of passes against each other, for every consumer.
* `passOver_strict_of_parsed`: a lenient pass against a strict one over the
  files that can be analysed.
-/

namespace JavaSurvey.Analysis

open Syntax (SourceUnit)

variable {σ : Type}

/-! ## Files and their analyses -/

/-- Whether the analysis of a file succeeds. -/
def Parses (analyze : String → Except Failure SourceUnit) (path : String) :
    Bool :=
  (analyze path).toBool

/-- The files that can be analysed, in order. -/
def parsable (analyze : String → Except Failure SourceUnit)
    (paths : List String) : List String :=
  paths.filter (Parses analyze)

/-- The files that cannot be analysed, in order. -/
def unparsable (analyze : String → Except Failure SourceUnit)
    (paths : List String) : List String :=
  paths.filter fun path => !Parses analyze path

/-- What the files that can be analysed are analysed to, in order. -/
def unitsOf (analyze : String → Except Failure SourceUnit)
    (paths : List String) : List SourceUnit :=
  paths.filterMap fun path => (analyze path).toOption

section Files

variable {analyze : String → Except Failure SourceUnit} {path : String}
  {unit : SourceUnit} {failure : Failure}

theorem parses_of_ok (h : analyze path = .ok unit) :
    Parses analyze path = true := by
  rw [Parses, h]
  rfl

theorem parses_of_error (h : analyze path = .error failure) :
    Parses analyze path = false := by
  rw [Parses, h]
  rfl

theorem exists_ok_of_parses (h : Parses analyze path = true) :
    ∃ unit, analyze path = .ok unit := by
  cases hpath : analyze path with
  | ok unit => exact ⟨unit, rfl⟩
  | error failure =>
      rw [parses_of_error hpath] at h
      cases h

theorem unitsOf_append (first second : List String) :
    unitsOf analyze (first ++ second) =
      unitsOf analyze first ++ unitsOf analyze second :=
  List.filterMap_append

theorem unitsOf_cons_of_ok (h : analyze path = .ok unit) (rest : List String) :
    unitsOf analyze (path :: rest) = unit :: unitsOf analyze rest := by
  rw [unitsOf, List.filterMap_cons, h]
  rfl

theorem unitsOf_cons_of_error (h : analyze path = .error failure)
    (rest : List String) :
    unitsOf analyze (path :: rest) = unitsOf analyze rest := by
  rw [unitsOf, List.filterMap_cons, h]
  rfl

theorem parsable_cons_of_ok (h : analyze path = .ok unit)
    (rest : List String) :
    parsable analyze (path :: rest) = path :: parsable analyze rest :=
  List.filter_cons_of_pos (parses_of_ok h)

theorem parsable_cons_of_error (h : analyze path = .error failure)
    (rest : List String) :
    parsable analyze (path :: rest) = parsable analyze rest := by
  refine List.filter_cons_of_neg ?_
  rw [parses_of_error h]
  exact Bool.false_ne_true

theorem unparsable_cons_of_ok (h : analyze path = .ok unit)
    (rest : List String) :
    unparsable analyze (path :: rest) = unparsable analyze rest := by
  refine List.filter_cons_of_neg ?_
  rw [parses_of_ok h]
  exact Bool.false_ne_true

theorem unparsable_cons_of_error (h : analyze path = .error failure)
    (rest : List String) :
    unparsable analyze (path :: rest) = path :: unparsable analyze rest := by
  refine List.filter_cons_of_pos ?_
  rw [parses_of_error h]
  rfl

/-- Files that cannot be analysed come to nothing. -/
theorem unitsOf_parsable (paths : List String) :
    unitsOf analyze (parsable analyze paths) = unitsOf analyze paths := by
  induction paths with
  | nil => rfl
  | cons path rest ih =>
      cases hpath : analyze path with
      | ok unit =>
          rw [parsable_cons_of_ok hpath, unitsOf_cons_of_ok hpath,
            unitsOf_cons_of_ok hpath, ih]
      | error failure =>
          rw [parsable_cons_of_error hpath, unitsOf_cons_of_error hpath, ih]

/-- Nothing is lost: a file can be analysed or it cannot. -/
theorem length_parsable_add_length_unparsable (paths : List String) :
    (parsable analyze paths).length + (unparsable analyze paths).length =
      paths.length := by
  have hsplit := List.length_eq_countP_add_countP (l := paths) (Parses analyze)
  rw [parsable, unparsable, ← List.countP_eq_length_filter,
    ← List.countP_eq_length_filter, hsplit]
  congr 2
  funext path
  cases Parses analyze path <;> rfl

end Files

/-! ## Consumers -/

/-- Hand files to a consumer, one after the other, until it fails. -/
def feed (consume : Consumer σ) : List SourceUnit → σ → σ × Except Failure Unit
  | [], state => (state, .ok ())
  | unit :: rest, state =>
    match consume state unit with
    | (state, .error failure) => (state, .error failure)
    | (state, .ok ()) => feed consume rest state

theorem feed_append_of_ok {consume : Consumer σ} {first : List SourceUnit}
    {state next : σ} (h : feed consume first state = (next, .ok ()))
    (second : List SourceUnit) :
    feed consume (first ++ second) state = feed consume second next := by
  induction first generalizing state with
  | nil =>
      cases h
      rfl
  | cons unit first ih =>
      rcases hunit : consume state unit with ⟨state', failure | _⟩
      · simp only [feed, hunit] at h
        cases h
      · simp only [feed, hunit] at h
        simp only [List.cons_append, feed, hunit]
        exact ih h

/-- A consumer that never fails gets everything. -/
theorem feed_of_forall_ok {consume : Consumer σ}
    (h : ∀ state unit, (consume state unit).2 = .ok ())
    (units : List SourceUnit) (state : σ) :
    feed consume units state =
      (units.foldl (fun state unit => (consume state unit).1) state, .ok ()) := by
  induction units generalizing state with
  | nil => rfl
  | cons unit units ih =>
      have hunit : consume state unit = ((consume state unit).1, .ok ()) := by
        rw [← h state unit]
      rw [feed, hunit, List.foldl_cons]
      exact ih _

/-! ## Passes -/

/-- The state of the consumer at the end of a pass, and the outcome. -/
def Pass.result (pass : Pass σ) : σ × Except Failure Summary :=
  (pass.state, pass.outcome)

section Passes

variable (analyze : String → Except Failure SourceUnit) (consume : Consumer σ)

/-- A lenient pass hands over all that can be analysed, and skips the rest. -/
theorem passOver_lenient (paths : List String) (state : σ) (summary : Summary) :
    (passOver false analyze consume paths state summary).result =
      ((feed consume (unitsOf analyze paths) state).1,
        (feed consume (unitsOf analyze paths) state).2.map fun _ =>
          ⟨summary.parsed + (parsable analyze paths).length,
            summary.skipped ++ unparsable analyze paths⟩) := by
  induction paths generalizing state summary with
  | nil =>
      rw [passOver, unparsable, List.filter_nil, List.append_nil]
      rfl
  | cons path rest ih =>
      cases hpath : analyze path with
      | error failure =>
          have hrest := ih state
            { summary with skipped := summary.skipped ++ [path] }
          rw [unitsOf_cons_of_error hpath, parsable_cons_of_error hpath,
            unparsable_cons_of_error hpath, List.append_cons, passOver, hpath]
          exact hrest
      | ok unit =>
          rw [unitsOf_cons_of_ok hpath, parsable_cons_of_ok hpath,
            unparsable_cons_of_ok hpath, List.length_cons]
          rcases hunit : consume state unit with ⟨next, failure | _⟩
          · simp only [passOver, hpath, feed, hunit]
            rfl
          · have hrest := ih next { summary with parsed := summary.parsed + 1 }
            rw [Nat.add_right_comm summary.parsed 1] at hrest
            simp only [passOver, hpath, feed, hunit]
            exact hrest

/-- As long as files can be analysed, both kinds of passes do the same: hand
them over and count them. -/
theorem passOver_append_of_parsed (failFast : Bool) {before : List String}
    (h : ∀ path ∈ before, Parses analyze path = true) (rest : List String)
    (state : σ) (summary : Summary) :
    passOver failFast analyze consume (before ++ rest) state summary =
      match feed consume (unitsOf analyze before) state with
      | (next, .error failure) => ⟨next, [], .error failure⟩
      | (next, .ok ()) => passOver failFast analyze consume rest next
          { summary with parsed := summary.parsed + before.length } := by
  induction before generalizing state summary with
  | nil => rfl
  | cons path before ih =>
      obtain ⟨hpath, hbefore⟩ := List.forall_mem_cons.1 h
      obtain ⟨unit, hunit⟩ := exists_ok_of_parses hpath
      rcases hconsume : consume state unit with ⟨next, failure | _⟩
      · simp only [List.cons_append, passOver, hunit, unitsOf_cons_of_ok hunit,
          feed, hconsume]
      · simp only [List.cons_append, passOver, hunit, unitsOf_cons_of_ok hunit,
          feed, hconsume]
        rw [ih hbefore, List.length_cons, Nat.add_right_comm summary.parsed 1]
        rfl

/-- What passes guarantee, for every list of files, whatever the analyses of the
files and whatever the consumer. -/
structure PassLaws (paths : List String) (state : σ) : Prop where
  /-- With a consumer that never fails, a lenient pass succeeds. It hands over
  and counts what can be analysed, and skips the rest. -/
  lenient : (∀ state unit, (consume state unit).2 = .ok ()) →
    (passOver false analyze consume paths state {}).state =
        (unitsOf analyze paths).foldl
          (fun state unit => (consume state unit).1) state ∧
      (passOver false analyze consume paths state {}).outcome =
        .ok ⟨(parsable analyze paths).length, unparsable analyze paths⟩ ∧
      (parsable analyze paths).length + (unparsable analyze paths).length =
        paths.length
  /-- If all files can be analysed, a strict pass is a lenient one. -/
  strict_of_all : (∀ path ∈ paths, Parses analyze path = true) →
    passOver true analyze consume paths state {} =
      passOver false analyze consume paths state {}
  /-- Otherwise it fails as the first file that cannot be analysed does, unless
  the consumer fails on the files before it. It has handed over just these. -/
  strict_of_failing : ∀ before bad after failure next,
    paths = before ++ bad :: after →
    (∀ path ∈ before, Parses analyze path = true) →
    analyze bad = .error failure →
    feed consume (unitsOf analyze before) state = (next, .ok ()) →
    passOver true analyze consume paths state {} = ⟨next, [], .error failure⟩
  /-- Where the consumer fails, the pass ends, right behind that file. -/
  consumer_failing : ∀ failFast before path after unit next last failure,
    paths = before ++ path :: after →
    (failFast = true → ∀ path ∈ before, Parses analyze path = true) →
    feed consume (unitsOf analyze before) state = (next, .ok ()) →
    analyze path = .ok unit →
    consume next unit = (last, .error failure) →
    (passOver failFast analyze consume paths state {}).state = last ∧
      (passOver failFast analyze consume paths state {}).outcome =
        .error failure

theorem passLaws (paths : List String) (state : σ) :
    PassLaws analyze consume paths state where
  lenient := by
    intro hconsume
    have hpass := passOver_lenient analyze consume paths state {}
    rw [feed_of_forall_ok hconsume] at hpass
    obtain ⟨hstate, houtcome⟩ := Prod.mk.inj hpass
    refine ⟨hstate, ?_, length_parsable_add_length_unparsable paths⟩
    rw [houtcome, Nat.zero_add]
    rfl
  strict_of_all := by
    intro hall
    have hstrict :=
      passOver_append_of_parsed analyze consume true hall [] state {}
    have hlenient :=
      passOver_append_of_parsed analyze consume false hall [] state {}
    rw [List.append_nil] at hstrict hlenient
    rw [hstrict, hlenient]
    rfl
  strict_of_failing := by
    rintro before bad after failure next rfl hbefore hbad hfeed
    rw [passOver_append_of_parsed analyze consume true hbefore, hfeed]
    simp only [passOver, hbad, if_true]
  consumer_failing := by
    rintro failFast before path after unit next last failure rfl hbefore hfeed
      hunit hconsume
    cases failFast with
    | true =>
        rw [passOver_append_of_parsed analyze consume true (hbefore rfl), hfeed]
        simp only [passOver, hunit, hconsume, and_self]
    | false =>
        have hpass :=
          passOver_lenient analyze consume (before ++ path :: after) state {}
        rw [unitsOf_append, unitsOf_cons_of_ok hunit, feed_append_of_ok hfeed,
          feed, hconsume] at hpass
        exact Prod.mk.inj hpass

/-- A lenient pass and a strict pass over the files that can be analysed, where
each is analysed as before: the consumer ends in the same state, and the
outcomes differ at most in what was skipped. -/
theorem passOver_strict_of_parsed {analyze' : String → Except Failure SourceUnit}
    {paths : List String}
    (h : ∀ path ∈ paths, Parses analyze path = true →
      analyze' path = analyze path) (state : σ) :
    (passOver true analyze' consume (parsable analyze paths) state {}).state =
        (passOver false analyze consume paths state {}).state ∧
      (passOver true analyze' consume (parsable analyze paths) state
          {}).outcome.map Summary.parsed =
        (passOver false analyze consume paths state {}).outcome.map
          Summary.parsed := by
  have hparsable : ∀ path ∈ parsable analyze paths,
      analyze' path = analyze path ∧ Parses analyze' path = true := by
    intro path hpath
    obtain ⟨hmem, hparses⟩ := List.mem_filter.1 hpath
    have hsame := h path hmem hparses
    refine ⟨hsame, ?_⟩
    rw [Parses, hsame]
    exact hparses
  have hunits : unitsOf analyze' (parsable analyze paths) =
      unitsOf analyze paths := by
    rw [← unitsOf_parsable paths]
    apply List.filterMap_congr
    intro path hpath
    rw [(hparsable path hpath).1]
  have hcount : parsable analyze' (parsable analyze paths) =
      parsable analyze paths :=
    List.filter_eq_self.2 fun path hpath => (hparsable path hpath).2
  have hstrict := passOver_lenient analyze' consume (parsable analyze paths)
    state {}
  have hlenient := passOver_lenient analyze consume paths state {}
  rw [hunits, hcount] at hstrict
  rw [(passLaws analyze' consume (parsable analyze paths) state).strict_of_all
    fun path hpath => (hparsable path hpath).2]
  obtain ⟨hstrictState, hstrictOutcome⟩ := Prod.mk.inj hstrict
  obtain ⟨hlenientState, hlenientOutcome⟩ := Prod.mk.inj hlenient
  refine ⟨hstrictState.trans hlenientState.symm, ?_⟩
  rw [hstrictOutcome, hlenientOutcome]
  cases (feed consume (unitsOf analyze paths) state).2 <;> rfl

end Passes

end JavaSurvey.Analysis
