import JavaSurvey.Proofs.DotText

/-!
# Quoted names delimit themselves

A quoted name carries no mark of its length, and the name may hold quotes and
runs of backslashes, also at its end. Its end can be found all the same: behind
the opening quote it is the first quote that no backslash protects. So a text
that begins with a quoted name begins with only one, and what follows the name is
determined as well.

Names are escaped character by character. Two replacements over the whole name
come to the same, if backslashes are replaced first: the backslashes that the
second replacement puts in must not be escaped themselves.

## Main results

* `toList_replace`: replacing a character in a text, character by character.
* `toList_escapeInPasses`: the two replacements escape every character once.
* `unquote?_eq_closingQuote?`: reading a quoted name is finding its closing quote
  and undoing the escapes in front of it.
* `quote_delimits_itself`: the above for all names and all that may follow.
-/

namespace JavaSurvey.CallGraph

/-! ## Replacing a character -/

section Replace

open String.Slice.Pattern (SearchStep ToForwardSearcher.toSearcher)
open String.Slice.Pattern.Model (IsLongestMatchAt IsValidSearchFrom MatchesAt
  LawfulToForwardSearcherModel.isValidSearchFrom_toList)

variable {old : Char} {slice : String.Slice}

/-- What a character becomes where one character is replaced by a text. -/
def replaceChar (old : Char) (new : String) (c : Char) : List Char :=
  if c == old then new.toList else [c]

theorem flatMap_replaceChar_of_not_mem (new : String) {text : List Char}
    (h : old ∉ text) : text.flatMap (replaceChar old new) = text := by
  induction text with
  | nil => rfl
  | cons c text ih =>
      rw [List.mem_cons, not_or] at h
      have hother : ¬(c == old) = true := by simpa using Ne.symm h.1
      rw [List.flatMap_cons, ih h.2, replaceChar, if_neg hother, List.singleton_append]

/-- Where the character is found, the text goes on with it. -/
theorem toList_sliceFrom_of_isLongestMatchAt {start stop : slice.Pos}
    (h : IsLongestMatchAt old start stop) :
    (slice.sliceFrom start).copy.toList = old :: (slice.sliceFrom stop).copy.toList := by
  obtain ⟨hend, rfl, hget⟩ := String.Slice.Pattern.Model.Char.isLongestMatchAt_iff.1 h
  rw [start.splits.eq_right (start.splits_next_right hend), hget, String.toList_append,
    String.toList_singleton, List.singleton_append]

theorem toList_sliceFrom_eq_append {start stop : slice.Pos} (h : start ≤ stop) :
    (slice.sliceFrom start).copy.toList =
      (slice.slice start stop h).copy.toList ++ (slice.sliceFrom stop).copy.toList := by
  obtain ⟨front, back, hstart, hstop⟩ :=
    String.Slice.copy_slice_eq_iff_splits.1 ⟨h, rfl⟩
  rw [start.splits.eq_right hstart, stop.splits.eq_right hstop, String.toList_append]

/-- A stretch in which nothing is found does not hold the character. -/
theorem not_mem_slice_of_not_matchesAt {start stop : slice.Pos} (h : start ≤ stop)
    (hnone : ∀ pos, start ≤ pos → pos < stop → ¬MatchesAt old pos) :
    old ∉ (slice.slice start stop h).copy.toList := by
  intro hmem
  obtain ⟨pos, hend, hget⟩ := String.Slice.mem_toList_copy_iff_exists_get.1 hmem
  have hlt : String.Slice.Pos.ofSlice pos < stop := by
    simp [String.Slice.Pos.ofSlice_lt_iff, hend, h]
  refine hnone _ String.Slice.Pos.le_ofSlice hlt ?_
  rw [String.Slice.Pos.get_eq_get_ofSlice] at hget
  exact String.Slice.Pattern.Model.Char.matchesAt_iff.2 ⟨_, hget⟩

/-- A search splits a text into stretches; copying them with the new text in
place of what was found replaces the character. -/
theorem toList_foldl_searchSteps {place : slice.Pos} {steps : List (SearchStep slice)}
    (h : IsValidSearchFrom old place steps) (new : String)
    {copy : String → SearchStep slice → String}
    (hmatched : ∀ done start stop,
      copy done (.matched start stop) = done ++ new.toSlice.copy)
    (hrejected : ∀ done start stop,
      copy done (.rejected start stop) = done ++ (slice.slice! start stop).copy)
    (done : String) :
    (steps.foldl copy done).toList =
      done.toList ++
        (slice.sliceFrom place).copy.toList.flatMap (replaceChar old new) := by
  induction h generalizing done with
  | endPos => simp
  | matched hmatch _ ih =>
      have hnew : replaceChar old new old = new.toList := if_pos (beq_self_eq_true old)
      rw [List.foldl_cons, hmatched, String.copy_toSlice, ih,
        toList_sliceFrom_of_isLongestMatchAt hmatch, String.toList_append,
        List.flatMap_cons, hnew, List.append_assoc]
  | @mismatched _ start stop hlt hnone _ ih =>
      have hle : start ≤ stop := Std.le_of_lt hlt
      rw [List.foldl_cons, hrejected, ih, toList_sliceFrom_eq_append hle,
        ← String.Slice.slice_eq_slice! (h := hle), String.toList_append,
        List.flatMap_append,
        flatMap_replaceChar_of_not_mem new (not_mem_slice_of_not_matchesAt hle hnone),
        List.append_assoc]

/-- Replacing a character everywhere replaces it character by character. -/
theorem toList_replace (old : Char) (new text : String) :
    (text.replace old new).toList = text.toList.flatMap (replaceChar old new) := by
  have hsteps : IsValidSearchFrom old text.toSlice.startPos
      (ToForwardSearcher.toSearcher old text.toSlice).toList :=
    LawfulToForwardSearcherModel.isValidSearchFrom_toList _
  unfold String.replace String.Slice.replace
  rw [← Std.Iter.foldl_toList,
    toList_foldl_searchSteps hsteps new (fun _ _ _ => rfl) (fun _ _ _ => rfl)]
  simp

end Replace

/-! ## Two passes -/

/-- A name with its backslashes escaped and then its quotes, each in one pass over
the whole name. -/
def escapeInPasses (name : String) : String :=
  (name.replace '\\' "\\\\").replace '"' "\\\""

/-- The second pass leaves alone what the first one puts in. -/
theorem flatMap_replaceChar_eq_escapeChar (c : Char) :
    (replaceChar '\\' "\\\\" c).flatMap (replaceChar '"' "\\\"") = escapeChar c := by
  rcases escapeChar_cases c with rfl | rfl | ⟨hbackslash, hquote, hplain⟩
  · rfl
  · rfl
  · rw [hplain]
    simp [replaceChar, hbackslash, hquote]

theorem toList_escapeInPasses (name : String) :
    (escapeInPasses name).toList = name.toList.flatMap escapeChar := by
  rw [escapeInPasses, toList_replace, toList_replace, List.flatMap_assoc]
  simp only [flatMap_replaceChar_eq_escapeChar]

theorem quote_eq_escapeInPasses (name : String) :
    quote name = "\"" ++ escapeInPasses name ++ "\"" := by
  rw [quote, ← toList_escapeInPasses, String.ofList_toList]

/-! ## The closing quote -/

/-- The number of characters in front of the first quote that no backslash
protects. -/
def closingQuote? : List Char → Option Nat
  | [] => none
  | '"' :: _ => some 0
  | '\\' :: _ :: rest => (closingQuote? rest).map (· + 2)
  | _ :: rest => (closingQuote? rest).map (· + 1)

/-- The characters that escaped text stands for: backslashes give way to what
they protect. -/
def unescape : List Char → List Char
  | [] => []
  | '\\' :: c :: rest => c :: unescape rest
  | c :: rest => c :: unescape rest

/-- A quoted name is read up to its closing quote. -/
theorem unquote?_eq_closingQuote? (text : List Char) :
    unquote? text = (closingQuote? text).map fun stop =>
      (unescape (text.take stop), text.drop (stop + 1)) := by
  fun_induction unquote? text with
  | case1 => rfl
  | case2 rest => rfl
  | case3 c rest ih =>
      rw [closingQuote?, ih, Option.map_map, Option.map_map]
      rfl
  | case4 c rest hquote hbackslash ih =>
      rw [closingQuote?, ih, Option.map_map, Option.map_map]
      · congr 1
        funext stop
        have hplain : unescape (c :: rest.take stop) = c :: unescape (rest.take stop) := by
          rw [unescape]
          -- What is protected in front of the closing quote is protected in the text.
          intro head more hc htake
          cases hrest : rest with
          | nil => rw [hrest, List.take_nil] at htake; cases htake
          | cons next others => exact hbackslash next others hc hrest
        simp only [Function.comp, List.take_succ_cons, List.drop_succ_cons, hplain]
      · exact hquote
      · exact hbackslash

theorem closingQuote?_escapeChar_append (c : Char) (text : List Char) :
    closingQuote? (escapeChar c ++ text) =
      (closingQuote? text).map (· + (escapeChar c).length) := by
  rcases escapeChar_cases c with rfl | rfl | ⟨hbackslash, hquote, hplain⟩
  · rfl
  · rfl
  · rw [hplain, List.singleton_append, closingQuote?]
    · rfl
    · exact hquote
    · intro _ _ hc
      exact absurd hc hbackslash

/-- The closing quote of a name is the first one that is not protected. -/
theorem closingQuote?_escaped (name rest : List Char) :
    closingQuote? (name.flatMap escapeChar ++ '"' :: rest) =
      some (name.flatMap escapeChar).length := by
  induction name with
  | nil => rfl
  | cons c name ih =>
      rw [List.flatMap_cons, List.append_assoc, closingQuote?_escapeChar_append, ih,
        Option.map_some, List.length_append, Nat.add_comm]

theorem unescape_escaped (name : List Char) :
    unescape (name.flatMap escapeChar) = name := by
  have hread := unquote?_escaped name []
  rw [unquote?_eq_closingQuote?, closingQuote?_escaped, Option.map_some,
    List.take_left] at hread
  exact congrArg Prod.fst (Option.some.inj hread)

/-! ## Delimited names -/

/-- A text begins with one quoted name at most. -/
theorem quote_append_inj {first second rest others : String} :
    quote first ++ rest = quote second ++ others ↔ first = second ∧ rest = others := by
  constructor
  · intro htext
    have hread := readName?_quote_append first rest.toList
    rw [← String.toList_append, htext, String.toList_append,
      readName?_quote_append] at hread
    obtain ⟨hname, hrest⟩ := Prod.mk.inj (Option.some.inj hread)
    exact ⟨hname.symm, (String.toList_inj.1 hrest).symm⟩
  · rintro ⟨rfl, rfl⟩
    rfl

/-- Quoted names delimit themselves. Whatever follows a quoted name, a scan from
behind its opening quote stops at its last character, and what it passes stands
for the name; so the name and what follows are determined by the text. The
escapes are those of two passes over the whole name. -/
theorem quote_delimits_itself :
    (∀ first second rest others : String,
      quote first ++ rest = quote second ++ others ↔ first = second ∧ rest = others) ∧
    (∀ name rest : String, ∃ body stop,
      (quote name ++ rest).toList = '"' :: body ∧
        closingQuote? body = some stop ∧ 1 + stop + 1 = (quote name).length ∧
          unescape (body.take stop) = name.toList) ∧
    ∀ name : String,
      quote name =
          "\"" ++ (name.replace '\\' "\\\\").replace '"' "\\\"" ++ "\"" ∧
        ((name.replace '\\' "\\\\").replace '"' "\\\"").toList =
          name.toList.flatMap escapeChar := by
  refine ⟨fun _ _ _ _ => quote_append_inj, ?_, fun name =>
    ⟨quote_eq_escapeInPasses name, toList_escapeInPasses name⟩⟩
  intro name rest
  refine ⟨name.toList.flatMap escapeChar ++ '"' :: rest.toList,
    (name.toList.flatMap escapeChar).length, ?_, closingQuote?_escaped _ _, ?_, ?_⟩
  · rw [String.toList_append, toList_quote, List.cons_append, List.append_assoc,
      List.singleton_append]
  · rw [← String.length_toList, toList_quote, List.length_cons, List.length_append,
      List.length_singleton]
    omega
  · rw [List.take_left, unescape_escaped]

end JavaSurvey.CallGraph
