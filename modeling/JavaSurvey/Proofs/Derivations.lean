import JavaSurvey.Grammar.Derivation
import JavaSurvey.Proofs.FlatGrammar
import JavaSurvey.Proofs.SoundCharts

/-!
# What is derived is derived by the grammar

A derivation is read off a chart from right to left. `Fills` says from left to
right what trees the filled slots of an item have, and does not mention charts:
it is the grammar's own notion of a derivation over a stretch of text. What is
read off a sound chart fills its item in this sense, because every item of the
chart was explained by the items that are gone back to.

Everything further is by induction on `Fills`. The tokens of the trees are the
stretch of text, nothing more and nothing less. Each node shows a nonterminal
with one of its productions. And a slot that gives a tree in some role whatever
fills it has given one.

## Main results

* `fills_of_read`: a text that is read has a derivation by the grammar.
* `Fills.tokensOfAll_append`: which tokens a derivation has.
* `Fills.allNodes`: what holds of all nodes of a derivation.
* `Fills.exists_role`: a tree in a role that is surely given.
-/

namespace JavaSurvey.Grammar

variable {τ κ ρ σ : Type}

section Members

variable {grammar : Flat τ κ ρ} {canRead : Nat → τ → Prop} {before : Array Column}
  {column : Column} {item : Item}

theorem Flat.Proper.size_lt (h : grammar.Proper) {index : Nat}
    {production : Production τ ρ}
    (hproduction : grammar.productions[index]? = some production) :
    production.body.size < 64 :=
  h.narrow production (Array.mem_of_getElem? hproduction)

theorem Flat.lt_size_of_slot? {index filled : Nat} {slot : Slot τ ρ}
    (hslot : grammar.slot? index filled = some slot) :
    ∃ production, grammar.productions[index]? = some production ∧
      filled < production.body.size := by
  obtain ⟨production, hproduction, hbody⟩ := Option.bind_eq_some_iff.1 hslot
  exact ⟨production, hproduction, (Array.getElem?_eq_some_iff.1 hbody).1⟩

theorem Explained.filled_lt (hproper : grammar.Proper)
    (h : Explained grammar canRead before column item) : item.filled < 64 := by
  have hslot : ∀ {index filled : Nat} {slot : Slot τ ρ},
      grammar.slot? index filled = some slot → filled + 1 < 64 := by
    intro index filled slot hslot
    obtain ⟨production, hproduction, hfilled⟩ := Flat.lt_size_of_slot? hslot
    have hsize := hproper.size_lt hproduction
    omega
  cases h with
  | begun => exact Nat.zero_lt_succ _
  | scanned h => exact hslot h
  | skipped h => exact hslot h
  | completed h => exact hslot h

/-- An item that is looked up is there. -/
theorem Column.Sound.mem_of_contains (hproper : grammar.Proper)
    (h : column.Sound grammar canRead before) (hfilled : item.filled < 64)
    (hcontains : column.contains item = true) : item ∈ column.items := by
  obtain ⟨other, hother, horigin, hplace⟩ := (h.contains_iff item).1 hcontains
  have hotherFilled := (h.explained other hother).filled_lt hproper
  have heq : other = item := by
    obtain ⟨production, filled, origin⟩ := item
    obtain ⟨production', filled', origin'⟩ := other
    simp only [Item.place, Item.mk.injEq] at *
    omega
  exact heq ▸ hother

theorem Column.Sound.contains_of_mem (h : column.Sound grammar canRead before)
    (hitem : item ∈ column.items) : column.contains item = true :=
  (h.contains_iff item).2 ⟨item, hitem, rfl, rfl⟩

end Members

/-! ## Derivations by the grammar -/

/-- An item all of whose slots are filled, of a production of a nonterminal. -/
def Full (grammar : Flat τ κ ρ) (number : Nat) (item : Item) : Prop :=
  ∃ production, grammar.productions[item.production]? = some production ∧
    production.head = number ∧ item.filled = production.body.size

/-- The trees for the filled slots of an item that ends at a place of the text.
A slot for a token holds a leaf, and a slot for a nonterminal holds nothing, a
node, or what a hidden nonterminal derives. -/
inductive Fills (grammar : Flat τ κ ρ) (canRead : Nat → τ → Prop)
    (tokens : List σ) : Item → Nat → List (Derivation σ κ ρ) → Prop where
  | start (production origin : Nat) :
      Fills grammar canRead tokens ⟨production, 0, origin⟩ origin []
  | token {production filled origin stop : Nat} {role : Option ρ} {terminal : τ}
      {token : σ} {trees : List (Derivation σ κ ρ)}
      (hslot : grammar.slot? production filled = some ⟨role, .terminal terminal⟩)
      (htoken : tokens[stop]? = some token) (hread : canRead stop terminal)
      (hbefore : Fills grammar canRead tokens ⟨production, filled, origin⟩ stop
        trees) :
      Fills grammar canRead tokens ⟨production, filled + 1, origin⟩ (stop + 1)
        (trees ++ [.leaf role token])
  | nothing {production filled origin stop : Nat} {role : Option ρ}
      {number : Nat} {trees : List (Derivation σ κ ρ)}
      (hslot : grammar.slot? production filled = some ⟨role, .nonterminal number⟩)
      (hnullable : grammar.isNullable number = true)
      (hbefore : Fills grammar canRead tokens ⟨production, filled, origin⟩ stop
        trees) :
      Fills grammar canRead tokens ⟨production, filled + 1, origin⟩ stop trees
  | node {production filled origin stop : Nat} {role : Option ρ} {number : Nat}
      {construct : κ} {inner : Item} {trees children : List (Derivation σ κ ρ)}
      (hslot : grammar.slot? production filled = some ⟨role, .nonterminal number⟩)
      (hnode : grammar.node? number = some construct)
      (hfull : Full grammar number inner) (hlt : inner.origin < stop)
      (hbefore : Fills grammar canRead tokens ⟨production, filled, origin⟩
        inner.origin trees)
      (hchildren : Fills grammar canRead tokens inner stop children) :
      Fills grammar canRead tokens ⟨production, filled + 1, origin⟩ stop
        (trees ++ [.node role construct children])
  | hidden {production filled origin stop : Nat} {role : Option ρ}
      {number : Nat} {inner : Item} {trees spliced : List (Derivation σ κ ρ)}
      (hslot : grammar.slot? production filled = some ⟨role, .nonterminal number⟩)
      (hnode : grammar.node? number = none)
      (hfull : Full grammar number inner) (hlt : inner.origin < stop)
      (hbefore : Fills grammar canRead tokens ⟨production, filled, origin⟩
        inner.origin trees)
      (hspliced : Fills grammar canRead tokens inner stop spliced) :
      Fills grammar canRead tokens ⟨production, filled + 1, origin⟩ stop
        (trees ++ Derivation.withRoles role spliced)

/-! ## Deriving from a chart -/

section Derive

variable {grammar : Flat τ κ ρ} {canRead : Nat → τ → Prop} {columns : Array Column}
  {column : Column}

/-- The full item that is looked for is one, and is found in the column. -/
theorem of_fullItem? (hproper : grammar.Proper)
    (hsound : SoundColumns grammar canRead columns) {stop number origin : Nat}
    (hcolumn : columns[stop]? = some column) {item : Item}
    (h : fullItem? grammar column number origin = some item) :
    Full grammar number item ∧ item.origin = origin ∧ item ∈ column.items := by
  obtain ⟨index, hindex, h⟩ := List.exists_of_findSome?_eq_some h
  obtain ⟨production, hproduction, hhead⟩ := (hproper.grouped number index).1 hindex
  simp only [hproduction, Option.elim_some] at h
  split at h
  next hcontains =>
    cases h
    have hsize := hproper.size_lt hproduction
    exact ⟨⟨production, hproduction, hhead, rfl⟩, rfl,
      (hsound stop column hcolumn).mem_of_contains hproper hsize hcontains⟩
  next => cases h

/-- A nonterminal that is complete has a full item. -/
theorem fullItem?_isSome (hproper : grammar.Proper) {before : Array Column}
    (hsound : column.Sound grammar canRead before) {number origin : Nat}
    (h : origin ∈ column.origins number) :
    (fullItem? grammar column number origin).isSome = true := by
  obtain ⟨index, production, hproduction, hhead, hitem⟩ :=
    (hsound.complete_iff number origin).1 h
  rw [fullItem?, List.isSome_findSome?]
  refine List.any_eq_true.2 ⟨index, ?_, ?_⟩
  · exact (hproper.grouped number index).2 ⟨production, hproduction, hhead⟩
  · simp only [hproduction, Option.elim_some, hsound.contains_of_mem hitem,
      if_true, Option.isSome_some]

/-- The item that fills a slot is a full one behind the slots before. -/
theorem of_fillingItem? (hproper : grammar.Proper)
    (hsound : SoundColumns grammar canRead columns) {item inner : Item}
    {number stop : Nat} (hfilled : item.filled < 64)
    (hcolumn : columns[stop]? = some column)
    (h : fillingItem? grammar columns item number stop = some inner) :
    Full grammar number inner ∧ inner ∈ column.items ∧ inner.origin < stop ∧
      ∃ earlier, columns[inner.origin]? = some earlier ∧ item ∈ earlier.items := by
  simp only [fillingItem?, hcolumn, Option.bind_eq_bind, Option.bind_some] at h
  obtain ⟨origin, hfound, hfull⟩ := Option.bind_eq_some_iff.1 h
  obtain ⟨hinner, rfl, hmem⟩ := of_fullItem? hproper hsound hcolumn hfull
  have hfits := List.find?_some hfound
  rw [Bool.and_eq_true, decide_eq_true_iff] at hfits
  obtain ⟨hlt, hcontains⟩ := hfits
  refine ⟨hinner, hmem, hlt, ?_⟩
  cases hearlier : columns[inner.origin]? with
  | none =>
      rw [hearlier] at hcontains
      cases hcontains
  | some earlier =>
      rw [hearlier] at hcontains
      exact ⟨earlier, rfl,
        (hsound _ earlier hearlier).mem_of_contains hproper hfilled hcontains⟩

/-- A slot that a complete nonterminal fills is found to be filled. -/
theorem fillingItem?_ne_none (hproper : grammar.Proper)
    (hsound : SoundColumns grammar canRead columns) {item : Item}
    {number stop place : Nat} {earlier : Column}
    (hcolumn : columns[stop]? = some column) (hlt : place < stop)
    (hearlier : columns[place]? = some earlier) (hitem : item ∈ earlier.items)
    (hcomplete : place ∈ column.origins number) :
    fillingItem? grammar columns item number stop ≠ none := by
  simp only [fillingItem?, hcolumn, Option.bind_eq_bind, Option.bind_some]
  cases hfound : (column.complete[number]?.getD []).find? fun origin =>
      origin < stop && (columns[origin]?.elim false (·.contains item)) with
  | none =>
      have hnot := List.find?_eq_none.1 hfound place hcomplete
      simp [hlt, hearlier, (hsound _ earlier hearlier).contains_of_mem hitem] at hnot
  | some origin =>
      have horigin : origin ∈ column.origins number := List.mem_of_find?_eq_some hfound
      rw [Option.bind_some]
      exact Option.isSome_iff_ne_none.1
        (fullItem?_isSome hproper (hsound stop column hcolumn) horigin)

end Derive

section Soundness

variable {grammar : Flat τ κ ρ} {canRead : Nat → τ → Prop} {columns : Array Column}
  {column : Column} {production filled origin stop : Nat} {role : Option ρ}

theorem size_take_of_getElem? (hcolumn : columns[stop]? = some column) :
    (columns.take stop).size = stop := by
  have hstop := (Array.getElem?_eq_some_iff.1 hcolumn).1
  rw [Array.take_eq_extract, Array.size_extract]
  omega

theorem getElem?_of_getElem?_take {place : Nat} {earlier : Column}
    (h : (columns.take stop)[place]? = some earlier) :
    place < stop ∧ columns[place]? = some earlier := by
  rw [Array.take_eq_extract, Array.getElem?_extract, Nat.zero_add] at h
  split at h
  next hlt => exact ⟨by omega, h⟩
  next => cases h

/-- An item that has filled no slot begins where it stands. -/
theorem origin_of_begun (hsound : SoundColumns grammar canRead columns)
    (hcolumn : columns[stop]? = some column)
    (hitem : ⟨production, 0, origin⟩ ∈ column.items) : origin = stop := by
  cases (hsound stop column hcolumn).explained _ hitem
  exact size_take_of_getElem? hcolumn

/-- A slot for a terminal was filled by the token to the left. -/
theorem before_of_terminal (hsound : SoundColumns grammar canRead columns)
    (hcolumn : columns[stop]? = some column)
    (hitem : ⟨production, filled + 1, origin⟩ ∈ column.items) {terminal : τ}
    (hslot : grammar.slot? production filled = some ⟨role, .terminal terminal⟩) :
    0 < stop ∧ canRead (stop - 1) terminal ∧
      ∃ previous, columns[stop - 1]? = some previous ∧
        ⟨production, filled, origin⟩ ∈ previous.items := by
  have hsize := size_take_of_getElem? hcolumn
  cases (hsound stop column hcolumn).explained _ hitem with
  | scanned hslot' hprevious hbefore hread =>
      cases hslot.symm.trans hslot'
      rw [Array.back?_eq_getElem?] at hprevious
      rw [hsize] at hprevious hread
      obtain ⟨hlt, hprevious⟩ := getElem?_of_getElem?_take hprevious
      exact ⟨Nat.zero_lt_of_lt hlt, hread, _, hprevious, hbefore⟩
  | skipped hslot' => cases hslot.symm.trans hslot'
  | completed hslot' => cases hslot.symm.trans hslot'

/-- A slot for a nonterminal that no full item fills was passed over. -/
theorem before_of_fillingItem?_eq_none (hproper : grammar.Proper)
    (hsound : SoundColumns grammar canRead columns)
    (hcolumn : columns[stop]? = some column)
    (hitem : ⟨production, filled + 1, origin⟩ ∈ column.items) {number : Nat}
    (hslot : grammar.slot? production filled = some ⟨role, .nonterminal number⟩)
    (hfilling : fillingItem? grammar columns ⟨production, filled, origin⟩ number
      stop = none) :
    grammar.isNullable number = true ∧
      ⟨production, filled, origin⟩ ∈ column.items := by
  cases (hsound stop column hcolumn).explained _ hitem with
  | scanned hslot' => cases hslot.symm.trans hslot'
  | skipped hslot' hnullable hbefore =>
      cases hslot.symm.trans hslot'
      exact ⟨hnullable, hbefore⟩
  | completed hslot' hearlier hbefore hcomplete =>
      cases hslot.symm.trans hslot'
      obtain ⟨hlt, hearlier⟩ := getElem?_of_getElem?_take hearlier
      exact absurd hfilling (fillingItem?_ne_none hproper hsound hcolumn hlt
        hearlier hbefore hcomplete)

/-- What is derived for an item of a sound chart is a derivation by the
grammar. -/
theorem fills_of_derive (hproper : grammar.Proper)
    (hsound : SoundColumns grammar canRead columns) {tokens : Array σ}
    {fuel : Nat} {item : Item} {after trees : List (Derivation σ κ ρ)}
    (hcolumn : columns[stop]? = some column) (hitem : item ∈ column.items)
    (h : derive grammar columns tokens fuel item stop after = some trees) :
    ∃ own, trees = own ++ after ∧
      Fills grammar canRead tokens.toList item stop own := by
  -- The slots are filled from right to left, so what is already derived for the
  -- slots to the right is carried along as `after`.
  induction fuel generalizing item stop column after trees with
  | zero => cases h
  | succ fuel ih =>
      obtain ⟨production, filled, origin⟩ := item
      cases filled with
      | zero =>
          cases h
          cases origin_of_begun hsound hcolumn hitem
          exact ⟨[], rfl, .start production _⟩
      | succ filled =>
          rw [derive] at h
          obtain ⟨⟨role, symbol⟩, hslot, h⟩ := Option.bind_eq_some_iff.1 h
          cases symbol with
          | terminal terminal =>
              obtain ⟨token, htoken, h⟩ := Option.bind_eq_some_iff.1 h
              obtain ⟨hpos, hread, previous, hprevious, hbefore⟩ :=
                before_of_terminal hsound hcolumn hitem hslot
              obtain ⟨own, rfl, hown⟩ := ih hprevious hbefore h
              refine ⟨own ++ [.leaf role token], by simp, ?_⟩
              rw [← Nat.succ_pred_eq_of_pos hpos]
              exact .token hslot (by simpa using htoken) hread hown
          | nonterminal number =>
              dsimp only at h
              split at h
              next hfilling =>
                obtain ⟨hnullable, hbefore⟩ := before_of_fillingItem?_eq_none
                  hproper hsound hcolumn hitem hslot hfilling
                obtain ⟨own, rfl, hown⟩ := ih hcolumn hbefore h
                exact ⟨own, rfl, .nothing hslot hnullable hown⟩
              next inner hfilling =>
                have hsmall :=
                  ((hsound _ column hcolumn).explained _ hitem).filled_lt hproper
                obtain ⟨hfull, hmem, hlt, earlier, hearlier, hbefore⟩ :=
                  of_fillingItem? hproper hsound (Nat.lt_of_succ_lt hsmall) hcolumn
                    hfilling
                split at h
                next construct hnode =>
                  obtain ⟨derived, hderived, h⟩ := Option.bind_eq_some_iff.1 h
                  obtain ⟨inside, rfl, hinside⟩ := ih hcolumn hmem hderived
                  obtain ⟨own, rfl, hown⟩ := ih hearlier hbefore h
                  rw [List.append_nil]
                  exact ⟨own ++ [.node _ construct inside], by simp,
                    .node hslot hnode hfull hlt hown hinside⟩
                next hnode =>
                  obtain ⟨derived, hderived, h⟩ := Option.bind_eq_some_iff.1 h
                  obtain ⟨inside, rfl, hinside⟩ := ih hcolumn hmem hderived
                  obtain ⟨own, rfl, hown⟩ := ih hearlier hbefore h
                  exact ⟨own ++ inside, by simp,
                    .hidden hslot hnode hfull hlt hown hinside⟩
                next role hnode =>
                  obtain ⟨derived, hderived, h⟩ := Option.bind_eq_some_iff.1 h
                  obtain ⟨inside, rfl, hinside⟩ := ih hcolumn hmem hderived
                  obtain ⟨own, rfl, hown⟩ := ih hearlier hbefore h
                  rw [List.append_nil]
                  exact ⟨own ++ Derivation.withRoles (some role) inside, by simp,
                    .hidden hslot hnode hfull hlt hown hinside⟩

/-- A text that is read has a derivation by the grammar, from its first token to
its last. -/
theorem fills_of_read [BEq τ] [LawfulBEq τ] (hproper : grammar.Proper)
    {readings : (τ → Bool) → σ → List τ} {tokens : Array σ}
    {trees : List (Derivation σ κ ρ)}
    (h : grammar.read readings tokens = .ok trees) :
    ∃ item, Full grammar grammar.start item ∧ item.origin = 0 ∧
      Fills grammar (CanRead readings tokens.toList) tokens.toList item
        tokens.size trees := by
  rw [Flat.read] at h
  cases hchart : chart grammar readings tokens.toList with
  | error number =>
      rw [hchart] at h
      cases h
  | ok columns =>
      obtain ⟨hsound, -⟩ := sound_of_chart hchart
      simp only [hchart, bind, Except.bind] at h
      split at h
      next derived hderived =>
        cases h
        obtain ⟨last, hlast, hderived⟩ := Option.bind_eq_some_iff.1 hderived
        obtain ⟨item, hfull, hderived⟩ := Option.bind_eq_some_iff.1 hderived
        obtain ⟨hitem, horigin, hmem⟩ := of_fullItem? hproper hsound hlast hfull
        obtain ⟨own, rfl, hown⟩ := fills_of_derive hproper hsound hlast hmem hderived
        rw [List.append_nil]
        exact ⟨item, hitem, horigin, hown⟩
      next => cases h

end Soundness

/-! ## The tokens of a derivation -/

namespace Derivation

/-- The role of a tree. -/
def role : Derivation σ κ ρ → Option ρ
  | .leaf role _ => role
  | .node role _ _ => role

mutual

/-- The tokens of a tree, from left to right. -/
def tokens : Derivation σ κ ρ → List σ
  | .leaf _ token => [token]
  | .node _ _ children => tokensOfAll children

/-- The tokens of several trees. -/
def tokensOfAll : List (Derivation σ κ ρ) → List σ
  | [] => []
  | tree :: rest => tree.tokens ++ tokensOfAll rest

end

theorem tokensOfAll_append (trees others : List (Derivation σ κ ρ)) :
    tokensOfAll (trees ++ others) = tokensOfAll trees ++ tokensOfAll others := by
  induction trees with
  | nil => rfl
  | cons tree trees ih =>
      rw [List.cons_append, tokensOfAll, tokensOfAll, ih, List.append_assoc]

theorem tokens_withRole (role : ρ) (tree : Derivation σ κ ρ) :
    (tree.withRole role).tokens = tree.tokens := by
  cases tree <;> rfl

theorem tokensOfAll_withRoles (role : Option ρ) (trees : List (Derivation σ κ ρ)) :
    tokensOfAll (withRoles role trees) = tokensOfAll trees := by
  cases role with
  | none => rfl
  | some role =>
      rw [withRoles]
      induction trees with
      | nil => rfl
      | cons tree trees ih =>
          rw [List.map_cons, tokensOfAll, tokensOfAll, ih, tokens_withRole]

end Derivation

section Tokens

variable {grammar : Flat τ κ ρ} {canRead : Nat → τ → Prop} {tokens : List σ}
  {item : Item} {stop : Nat} {trees : List (Derivation σ κ ρ)}

/-- A derivation reads the text from where its item begins to where it ends. -/
theorem Fills.tokensOfAll_append (h : Fills grammar canRead tokens item stop trees) :
    tokens.take item.origin ++ Derivation.tokensOfAll trees = tokens.take stop := by
  induction h with
  | start => exact List.append_nil _
  | token hslot htoken _ _ ih =>
      rw [Derivation.tokensOfAll_append, ← List.append_assoc, ih,
        List.take_add_one, htoken]
      rfl
  | nothing _ _ _ ih => exact ih
  | node _ _ _ _ _ _ ih ihchildren =>
      rw [Derivation.tokensOfAll_append, ← List.append_assoc, ih, ← ihchildren]
      simp only [Derivation.tokensOfAll, Derivation.tokens, List.append_nil]
  | hidden _ _ _ _ _ _ ih ihspliced =>
      rw [Derivation.tokensOfAll_append, ← List.append_assoc, ih, ← ihspliced,
        Derivation.tokensOfAll_withRoles]

theorem Fills.stop_le (h : Fills grammar canRead tokens item stop trees)
    (hlt : item.origin < stop) : stop ≤ tokens.length := by
  induction h with
  | start => exact absurd hlt (Nat.lt_irrefl _)
  | token _ htoken => exact (List.getElem?_eq_some_iff.1 htoken).1
  | nothing _ _ _ ih => exact ih hlt
  | node _ _ _ hinner _ _ _ ihchildren => exact ihchildren hinner
  | hidden _ _ _ hinner _ _ _ ihspliced => exact ihspliced hinner

/-- A derivation over some text has tokens. -/
theorem Fills.tokensOfAll_ne_nil (h : Fills grammar canRead tokens item stop trees)
    (hlt : item.origin < stop) : Derivation.tokensOfAll trees ≠ [] := by
  intro hnil
  have hlength := congrArg List.length h.tokensOfAll_append
  have hstop := h.stop_le hlt
  rw [hnil, List.append_nil, List.length_take, List.length_take] at hlength
  omega

/-- Each tree of a derivation has tokens. -/
theorem Fills.tokens_ne_nil (h : Fills grammar canRead tokens item stop trees)
    {tree : Derivation σ κ ρ} (htree : tree ∈ trees) : tree.tokens ≠ [] := by
  induction h generalizing tree with
  | start => cases htree
  | token _ _ _ _ ih =>
      rcases List.mem_append.1 htree with hbefore | hleaf
      · exact ih hbefore
      · cases List.mem_singleton.1 hleaf
        exact List.cons_ne_nil _ _
  | nothing _ _ _ ih => exact ih htree
  | node _ _ _ hlt _ hchildren ih =>
      rcases List.mem_append.1 htree with hbefore | hnode
      · exact ih hbefore
      · cases List.mem_singleton.1 hnode
        exact hchildren.tokensOfAll_ne_nil hlt
  | @hidden _ _ _ _ role _ _ _ _ _ _ _ _ _ _ ih ihspliced =>
      rcases List.mem_append.1 htree with hbefore | hspliced
      · exact ih hbefore
      · cases role with
        | none => exact ihspliced hspliced
        | some role =>
            obtain ⟨inner, hinner, rfl⟩ := List.mem_map.1 hspliced
            rw [Derivation.tokens_withRole]
            exact ihspliced hinner

theorem Derivation.tokens_subset_tokensOfAll {tree : Derivation σ κ ρ}
    {trees : List (Derivation σ κ ρ)} (htree : tree ∈ trees) :
    tree.tokens ⊆ Derivation.tokensOfAll trees := by
  obtain ⟨before, after, rfl⟩ := List.append_of_mem htree
  rw [Derivation.tokensOfAll_append, Derivation.tokensOfAll]
  exact List.Subset.trans (List.subset_append_left _ _)
    (List.subset_append_right _ _)

/-- All tokens of a derivation are tokens of the text. -/
theorem Fills.tokensOfAll_subset (h : Fills grammar canRead tokens item stop trees) :
    Derivation.tokensOfAll trees ⊆ tokens := by
  have hsubset := List.subset_append_right (tokens.take item.origin)
    (Derivation.tokensOfAll trees)
  rw [h.tokensOfAll_append] at hsubset
  exact List.Subset.trans hsubset (List.take_subset stop tokens)

end Tokens

/-! ## The nodes of a derivation -/

mutual

/-- Whether something holds of each node of a tree: of its construct and its
children. -/
def Derivation.AllNodes (holds : κ → List (Derivation σ κ ρ) → Prop) :
    Derivation σ κ ρ → Prop
  | .leaf _ _ => True
  | .node _ construct children =>
    holds construct children ∧ Derivation.AllNodesOfAll holds children

/-- Whether something holds of each node of several trees. -/
def Derivation.AllNodesOfAll (holds : κ → List (Derivation σ κ ρ) → Prop) :
    List (Derivation σ κ ρ) → Prop
  | [] => True
  | tree :: rest => tree.AllNodes holds ∧ Derivation.AllNodesOfAll holds rest

end

section Nodes

variable {grammar : Flat τ κ ρ} {canRead : Nat → τ → Prop} {tokens : List σ}
  {item : Item} {stop : Nat} {trees : List (Derivation σ κ ρ)}
  {holds : κ → List (Derivation σ κ ρ) → Prop}

theorem Derivation.allNodesOfAll_iff :
    Derivation.AllNodesOfAll holds trees ↔ ∀ tree ∈ trees, tree.AllNodes holds := by
  induction trees with
  | nil => simp [Derivation.AllNodesOfAll]
  | cons tree trees ih => rw [Derivation.AllNodesOfAll, ih, List.forall_mem_cons]

theorem Derivation.allNodes_withRole {role : ρ} {tree : Derivation σ κ ρ} :
    (tree.withRole role).AllNodes holds ↔ tree.AllNodes holds := by
  cases tree <;> rfl

/-- Something holds of each node of a derivation, if it holds of the constructs
that show with what the grammar derives for them. -/
theorem Fills.allNodes (holds : κ → List (Derivation σ κ ρ) → Prop)
    (hholds : ∀ {number construct inner stop children},
      grammar.node? number = some construct → Full grammar number inner →
      Fills grammar canRead tokens inner stop children → holds construct children)
    (h : Fills grammar canRead tokens item stop trees) :
    ∀ tree ∈ trees, tree.AllNodes holds := by
  induction h with
  | start => exact List.forall_mem_nil _
  | token _ _ _ _ ih =>
      exact List.forall_mem_append.2 ⟨ih, List.forall_mem_singleton.2 trivial⟩
  | nothing _ _ _ ih => exact ih
  | node _ hnode hfull _ _ hchildren ih ihchildren =>
      refine List.forall_mem_append.2 ⟨ih, List.forall_mem_singleton.2 ?_⟩
      exact ⟨hholds hnode hfull hchildren,
        Derivation.allNodesOfAll_iff.2 ihchildren⟩
  | @hidden _ _ _ _ role _ _ _ _ _ _ _ _ _ _ ih ihspliced =>
      refine List.forall_mem_append.2 ⟨ih, ?_⟩
      cases role with
      | none => exact ihspliced
      | some role =>
          exact List.forall_mem_map.2 fun tree htree =>
            Derivation.allNodes_withRole.2 (ihspliced tree htree)

/-! ## Roles -/

theorem Derivation.role_withRole (role : ρ) (tree : Derivation σ κ ρ) :
    (tree.withRole role).role = some role := by
  cases tree <;> rfl

/-- An item that is full has filled the slot that all productions of its
nonterminal have. -/
theorem Full.exists_slot {number : Nat} (h : Full grammar number item)
    (holds : Slot τ ρ → Bool)
    (hall : ∀ production ∈ grammar.productions.toList, production.head = number →
      production.body.any holds = true) :
    ∃ place slot, place < item.filled ∧
      grammar.slot? item.production place = some slot ∧ holds slot = true := by
  obtain ⟨production, hproduction, hhead, hfilled⟩ := h
  have hmem := Array.mem_toList_iff.2 (Array.mem_of_getElem? hproduction)
  obtain ⟨place, hplace, hholds⟩ := Array.any_eq_true.1 (hall production hmem hhead)
  refine ⟨place, _, hfilled ▸ hplace, ?_, hholds⟩
  rw [Flat.slot?, hproduction]
  exact Array.getElem?_eq_getElem hplace

theorem eq_of_gives_some [BEq ρ] [LawfulBEq ρ] {productions : List (Production τ ρ)}
    {shows : Nat → Bool} {role given : ρ} {depth : Nat} {symbol : Symbol τ}
    (h : Slot.gives productions shows role depth ⟨some given, symbol⟩ = true) :
    given = role := by
  rw [Slot.gives, Bool.and_eq_true] at h
  exact eq_of_beq h.1

theorem exists_of_mem_append {trees others : List (Derivation σ κ ρ)} {role : ρ}
    (h : ∃ tree ∈ trees, tree.role = some role) :
    ∃ tree ∈ trees ++ others, tree.role = some role := by
  obtain ⟨tree, htree, hrole⟩ := h
  exact ⟨tree, List.mem_append_left others htree, hrole⟩

/-- Where a filled slot surely gives a tree in a role, there is one. -/
theorem Fills.exists_role [BEq ρ] [LawfulBEq ρ] (hproper : grammar.Proper)
    {shows : Nat → Bool}
    (hshows : ∀ number, grammar.node? number ≠ none → shows number = true)
    {role : ρ} (h : Fills grammar canRead tokens item stop trees)
    {depth place : Nat} {slot : Slot τ ρ} (hplace : place < item.filled)
    (hslot : grammar.slot? item.production place = some slot)
    (hgives : slot.gives grammar.productions.toList shows role depth = true) :
    ∃ tree ∈ trees, tree.role = some role := by
  induction h generalizing depth place slot with
  | start => cases hplace
  | @token _ _ _ _ given _ token _ hnext _ _ _ ih =>
      rcases Nat.lt_succ_iff_lt_or_eq.1 hplace with hbefore | rfl
      · exact exists_of_mem_append (ih hbefore hslot hgives)
      · cases hnext.symm.trans hslot
        refine ⟨.leaf given token, List.mem_concat_self, ?_⟩
        cases given with
        | none =>
            cases depth <;> cases hgives
        | some given => exact congrArg some (eq_of_gives_some hgives)
  | nothing hnext hnullable _ ih =>
      rcases Nat.lt_succ_iff_lt_or_eq.1 hplace with hbefore | rfl
      · exact ih hbefore hslot hgives
      · cases hnext.symm.trans hslot
        have hnot := not_nullable_of_reads hproper (reads_of_gives hgives)
        exact absurd hnullable (Bool.eq_false_iff.1 hnot)
  | @node _ _ _ _ given number construct _ _ children hnext hnode _ _ _ _ ih =>
      rcases Nat.lt_succ_iff_lt_or_eq.1 hplace with hbefore | rfl
      · exact exists_of_mem_append (ih hbefore hslot hgives)
      · cases hnext.symm.trans hslot
        refine ⟨.node given construct children, List.mem_concat_self, ?_⟩
        cases given with
        | none =>
            have hshown := hshows number (by rw [hnode]; exact Option.some_ne_none _)
            cases depth <;> simp [Slot.gives, hshown] at hgives
        | some given => exact congrArg some (eq_of_gives_some hgives)
  | @hidden _ _ _ _ given number inner _ spliced hnext hnode hfull hlt _ hspliced ih
      ihspliced =>
      rcases Nat.lt_succ_iff_lt_or_eq.1 hplace with hbefore | rfl
      · exact exists_of_mem_append (ih hbefore hslot hgives)
      · cases hnext.symm.trans hslot
        suffices ∃ tree ∈ Derivation.withRoles given spliced, tree.role = some role by
          obtain ⟨tree, htree, hrole⟩ := this
          exact ⟨tree, List.mem_append_right _ htree, hrole⟩
        cases given with
        | none =>
            cases depth with
            | zero => cases hgives
            | succ depth =>
                rw [Slot.gives, Bool.and_eq_true] at hgives
                obtain ⟨place, slot, hplace, hslot, hgives⟩ :=
                  hfull.exists_slot _ (any_of_all hgives.2)
                exact ihspliced hplace hslot hgives
        | some given =>
            cases hmem : spliced with
            | nil =>
                exact absurd (congrArg Derivation.tokensOfAll hmem)
                  (hspliced.tokensOfAll_ne_nil hlt)
            | cons tree rest =>
                refine ⟨tree.withRole given, List.mem_cons_self, ?_⟩
                rw [Derivation.role_withRole, eq_of_gives_some hgives]

end Nodes

end JavaSurvey.Grammar
