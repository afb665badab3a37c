import JavaSurvey.Grammar.Phrase

/-!
# Flattened grammars

Flattening threads a growing array of productions through all definitions. It
never looks at the array: what a phrase adds depends only on the next free
number, and it is added at the end. So the productions of a grammar are listed
definition by definition (`Phrase.flatten`), in a form that can be evaluated for
a whole grammar.

Reading by a grammar needs three facts about the tables that are made from the
productions, put together in `Flat.Proper`. Finally `Symbol.reads` and
`Slot.gives` tell by a look at the productions what surely stands in a slot,
whatever fills it.

## Main results

* `ofDefinitions_eq`: a flattened grammar, by the list of its productions.
* `mem_groupByHead`: productions are found under their heads.
* `Supported.findNullable`: what counts as nullable has a nullable production.
* `proper_ofDefinitions`: flattening gives proper grammars.
* `not_nullable_of_reads`: what surely reads a token is not nullable.
-/

namespace JavaSurvey.Grammar

variable {τ κ ρ : Type}

/-! ## Flattening adds productions behind the ones there are -/

namespace Phrase

/-- An action that does not depend on the productions made so far, and only adds
some at their end. -/
def Appends {α : Type} (action : StateM (Builder τ ρ) α) : Prop :=
  ∀ productions next, action.run ⟨productions, next⟩ =
    let fromNone := action.run ⟨#[], next⟩
    (fromNone.1, ⟨productions ++ fromNone.2.productions, fromNone.2.next⟩)

theorem appends_pure {α : Type} (value : α) :
    Appends (pure value : StateM (Builder τ ρ) α) := by
  intro productions next
  show (value, (⟨productions, next⟩ : Builder τ ρ)) = (value, ⟨productions ++ #[], next⟩)
  rw [Array.append_empty]

theorem appends_fresh : Appends (fresh : StateM (Builder τ ρ) Nat) := by
  intro productions next
  show (next, (⟨productions, next + 1⟩ : Builder τ ρ)) =
    (next, ⟨productions ++ #[], next + 1⟩)
  rw [Array.append_empty]

theorem appends_addProduction (head : Nat) (body : List (Slot τ ρ)) :
    Appends (addProduction head body) := by
  intro productions next
  show ((), (⟨productions.push ⟨head, body.toArray⟩, next⟩ : Builder τ ρ)) =
    ((), ⟨productions ++ #[].push ⟨head, body.toArray⟩, next⟩)
  rw [Array.append_push, Array.append_empty]

theorem run_bind {α β : Type} (action : StateM (Builder τ ρ) α)
    (continuation : α → StateM (Builder τ ρ) β) (builder : Builder τ ρ) :
    (action >>= continuation).run builder =
      (continuation (action.run builder).1).run (action.run builder).2 :=
  rfl

theorem Appends.bind {α β : Type} {action : StateM (Builder τ ρ) α}
    {continuation : α → StateM (Builder τ ρ) β} (h : Appends action)
    (hcontinuation : ∀ value, Appends (continuation value)) :
    Appends (action >>= continuation) := by
  intro productions next
  simp only [run_bind]
  rw [h productions next, hcontinuation,
    hcontinuation _ (action.run ⟨#[], next⟩).2.productions]
  simp only [Array.append_assoc]

mutual

theorem appends_slots (number : κ → Nat) :
    ∀ phrase : Phrase τ κ ρ, Appends (slots number phrase)
  | .terminal _ => by
      rw [slots]
      exact appends_pure _
  | .construct _ => by
      rw [slots]
      exact appends_pure _
  | .sequence parts => by
      rw [slots]
      exact appends_slotsOfSequence number parts
  | .choice options => by
      rw [slots]
      exact appends_fresh.bind fun head =>
        (appends_addOptions number head options).bind fun _ => appends_pure _
  | .optional part => by
      rw [slots]
      exact appends_fresh.bind fun head =>
        (appends_addProduction head []).bind fun _ =>
          (appends_slots number part).bind fun body =>
            (appends_addProduction head body).bind fun _ => appends_pure _
  | .many part => by
      rw [slots]
      exact appends_fresh.bind fun head =>
        (appends_addProduction head []).bind fun _ =>
          (appends_slots number part).bind fun body =>
            (appends_addProduction head _).bind fun _ => appends_pure _
  | .role _ part => by
      rw [slots]
      exact (appends_slots number part).bind fun _ => appends_pure _

theorem appends_slotsOfSequence (number : κ → Nat) :
    ∀ parts : List (Phrase τ κ ρ), Appends (slotsOfSequence number parts)
  | [] => by
      rw [slotsOfSequence]
      exact appends_pure _
  | part :: rest => by
      rw [slotsOfSequence]
      exact (appends_slots number part).bind fun _ =>
        (appends_slotsOfSequence number rest).bind fun _ => appends_pure _

theorem appends_addOptions (number : κ → Nat) (head : Nat) :
    ∀ options : List (Phrase τ κ ρ), Appends (addOptions number head options)
  | [] => by
      rw [addOptions]
      exact appends_pure _
  | option :: rest => by
      rw [addOptions]
      exact (appends_slots number option).bind fun body =>
        (appends_addProduction head body).bind fun _ =>
          appends_addOptions number head rest

end

/-- The options of a definition. -/
def options : Phrase τ κ ρ → List (Phrase τ κ ρ)
  | .choice options => options
  | phrase => [phrase]

/-- The productions for definitions, with auxiliary nonterminals from `next` on,
and the number after the last one taken. -/
def flatten (number : κ → Nat) :
    List (κ × Phrase τ κ ρ) → Nat → List (Production τ ρ) × Nat
  | [], next => ([], next)
  | (name, phrase) :: rest, next =>
    let builder :=
      ((addOptions number (number name) phrase.options).run ⟨#[], next⟩).2
    let others := flatten number rest builder.next
    (builder.productions.toList ++ others.1, others.2)

theorem run_forM_flatten {number : κ → Nat}
    {define : κ × Phrase τ κ ρ → StateM (Builder τ ρ) Unit}
    (hdefine : ∀ name phrase,
      define (name, phrase) = addOptions number (number name) phrase.options)
    (definitions : List (κ × Phrase τ κ ρ)) (productions : Array (Production τ ρ))
    (next : Nat) :
    ((definitions.forM define).run ⟨productions, next⟩).2 =
      ⟨productions ++ (flatten number definitions next).1.toArray,
        (flatten number definitions next).2⟩ := by
  induction definitions generalizing productions next with
  | nil =>
      rw [flatten, Array.append_empty]
      rfl
  | cons definition definitions ih =>
      obtain ⟨name, phrase⟩ := definition
      have hforM : ((name, phrase) :: definitions).forM define =
          (do define (name, phrase); definitions.forM define) := rfl
      rw [hforM, run_bind, hdefine, appends_addOptions _ _ _ productions next]
      dsimp only
      rw [ih, flatten]
      simp only [← List.append_toArray, Array.toArray_toList, Array.append_assoc]

end Phrase

/-! ## Productions by head -/

theorem size_foldr_modify (entries : List (Nat × Nat)) (groups : Array (List Nat)) :
    (entries.foldr (fun entry groups => groups.modify entry.2 (entry.1 :: ·))
      groups).size = groups.size := by
  induction entries with
  | nil => rfl
  | cons entry entries ih => rw [List.foldr_cons, Array.size_modify, ih]

theorem mem_foldr_modify {entries : List (Nat × Nat)} {groups : Array (List Nat)}
    {head index : Nat} (hhead : head < groups.size) :
    index ∈ (entries.foldr (fun entry groups =>
        groups.modify entry.2 (entry.1 :: ·)) groups)[head]?.getD [] ↔
      (index, head) ∈ entries ∨ index ∈ groups[head]?.getD [] := by
  induction entries with
  | nil => simp
  | cons entry entries ih =>
      rw [← size_foldr_modify entries groups] at hhead
      rw [List.foldr_cons, Array.getElem?_modify, List.mem_cons, or_assoc, ← ih,
        Array.getElem?_eq_getElem hhead]
      by_cases hentry : entry.2 = head
      · simp [hentry, Prod.ext_iff]
      · simp [hentry, Prod.ext_iff, Ne.symm hentry]

theorem mem_groupByHead {productions : Array (Production τ ρ)} {count : Nat}
    (hcount : ∀ production ∈ productions, production.head < count)
    {number index : Nat} :
    index ∈ (groupByHead productions count)[number]?.getD [] ↔
      ∃ production, productions[index]? = some production ∧
        production.head = number := by
  have hlisted : (index, number) ∈ (productions.mapIdx fun number production =>
      (number, production.head)).toList ↔
      ∃ production, productions[index]? = some production ∧
        production.head = number := by
    simp only [Array.mem_toList_iff, Array.mem_mapIdx, Prod.mk.injEq,
      Array.getElem?_eq_some_iff]
    constructor
    · rintro ⟨index, hindex, rfl, hhead⟩
      exact ⟨_, ⟨hindex, rfl⟩, hhead⟩
    · rintro ⟨production, ⟨hindex, rfl⟩, hhead⟩
      exact ⟨index, hindex, rfl, hhead⟩
  rw [groupByHead, ← Array.foldr_toList]
  by_cases hnumber : number < count
  · rw [mem_foldr_modify (by rwa [Array.size_replicate]), hlisted]
    simp [hnumber]
  · rw [Array.getElem?_eq_none (by
      rw [size_foldr_modify, Array.size_replicate]
      exact Nat.le_of_not_lt hnumber)]
    simp only [Option.getD_none, List.not_mem_nil, false_iff, not_exists, not_and]
    rintro production hproduction rfl
    exact hnumber (hcount production (Array.mem_of_getElem? hproduction))

/-! ## Nullable nonterminals -/

/-- Whatever is known to be nullable has a production of nullable slots. -/
def Supported (productions : Array (Production τ ρ)) (known : Array Bool) : Prop :=
  ∀ number : Nat, known[number]?.getD false = true →
    ∃ production ∈ productions, production.head = number ∧
      ∀ slot ∈ production.body, Slot.nullable known slot = true

theorem Slot.nullable_mono {known more : Array Bool}
    (h : ∀ number : Nat, known[number]?.getD false = true →
      more[number]?.getD false = true)
    {slot : Slot τ ρ} (hslot : slot.nullable known = true) :
    slot.nullable more = true := by
  obtain ⟨role, symbol⟩ := slot
  cases symbol with
  | terminal symbol => cases hslot
  | nonterminal number => exact h number hslot

theorem Supported.set {productions : Array (Production τ ρ)} {known : Array Bool}
    (h : Supported productions known) {production : Production τ ρ}
    (hproduction : production ∈ productions)
    (hbody : production.body.all (Slot.nullable known) = true) :
    Supported productions (known.setIfInBounds production.head true) := by
  have hmono : ∀ number : Nat, known[number]?.getD false = true →
      (known.setIfInBounds production.head true)[number]?.getD false = true := by
    intro number hnumber
    rw [Array.getElem?_setIfInBounds]
    split
    next heq =>
      subst heq
      cases hknown : known[production.head]? with
      | none => simp [hknown] at hnumber
      | some value => simp [(Array.getElem?_eq_some_iff.1 hknown).1]
    next => exact hnumber
  intro number hnumber
  rw [Array.getElem?_setIfInBounds] at hnumber
  split at hnumber
  next heq =>
    refine ⟨production, hproduction, heq, fun slot hslot => ?_⟩
    exact Slot.nullable_mono hmono
      (Array.all_eq_true_iff_forall_mem.1 hbody slot hslot)
  next =>
    obtain ⟨other, hother, hhead, hslots⟩ := h number hnumber
    exact ⟨other, hother, hhead, fun slot hslot =>
      Slot.nullable_mono hmono (hslots slot hslot)⟩

theorem Supported.growNullable {productions : Array (Production τ ρ)}
    {known : Array Bool} (h : Supported productions known) :
    Supported productions (growNullable productions known) := by
  rw [Grammar.growNullable, ← Array.foldl_toList]
  have hmem : ∀ production ∈ productions.toList, production ∈ productions :=
    fun _ => Array.mem_toList_iff.1
  generalize productions.toList = rest at hmem
  induction rest generalizing known with
  | nil => exact h
  | cons production rest ih =>
      obtain ⟨hproduction, hrest⟩ := List.forall_mem_cons.1 hmem
      rw [List.foldl_cons]
      refine ih ?_ hrest
      split
      next hbody => exact h.set hproduction hbody
      next => exact h

theorem Supported.findNullable {productions : Array (Production τ ρ)}
    {known : Array Bool} (h : Supported productions known) (rounds : Nat) :
    Supported productions (findNullable productions rounds known) := by
  induction rounds generalizing known with
  | zero => exact h
  | succ rounds ih =>
      rw [Grammar.findNullable]
      split
      next => exact h
      next => exact ih h.growNullable

theorem supported_replicate (productions : Array (Production τ ρ)) (count : Nat) :
    Supported productions (Array.replicate count false) := by
  intro number hnumber
  rw [Array.getElem?_replicate] at hnumber
  split at hnumber <;> cases hnumber

/-! ## Proper grammars -/

/-- What reading asks of a flattened grammar: productions are short enough for
items to be told apart by their numbers, each is found under its head, and what
counts as nullable has a reason to. -/
structure Flat.Proper (grammar : Flat τ κ ρ) : Prop where
  narrow : ∀ production ∈ grammar.productions, production.body.size < 64
  grouped : ∀ number index : Nat, index ∈ grammar.alternatives[number]?.getD [] ↔
    ∃ production : Production τ ρ,
      grammar.productions[index]? = some production ∧ production.head = number
  supported : Supported grammar.productions grammar.nullable

section OfDefinitions

variable [BEq κ] (definitions : List (κ × Phrase τ κ ρ)) (shows : κ → Bool)
  (start : κ)

/-- The number of a construct. -/
def numberIn (name : κ) : Nat :=
  definitions.findIdx fun definition => definition.1 == name

/-- The productions of flattened definitions, listed definition by definition. -/
theorem ofDefinitions_eq :
    Flat.ofDefinitions definitions shows start =
      let flat := Phrase.flatten (numberIn definitions) definitions definitions.length
      { constructs :=
          (definitions.map fun definition => (definition.1, shows definition.1)).toArray
        productions := flat.1.toArray
        alternatives := groupByHead flat.1.toArray flat.2
        nullable := findNullable flat.1.toArray flat.2 (Array.replicate flat.2 false)
        start := numberIn definitions start } := by
  rw [Flat.ofDefinitions]
  dsimp only
  split
  next builder hbuilder =>
    have hrun := (congrArg Prod.snd hbuilder).symm.trans
      (Phrase.run_forM_flatten (fun name phrase => by cases phrase <;> rfl)
        definitions #[] definitions.length)
    rw [Array.empty_append] at hrun
    cases hrun
    rfl


theorem productions_ofDefinitions :
    (Flat.ofDefinitions definitions shows start).productions.toList =
      (Phrase.flatten (numberIn definitions) definitions definitions.length).1 := by
  rw [ofDefinitions_eq]

/-- The construct that a nonterminal shows as. -/
theorem node?_ofDefinitions (number : Nat) :
    (Flat.ofDefinitions definitions shows start).node? number =
      (definitions[number]?.map Prod.fst).filter shows := by
  rw [ofDefinitions_eq, Flat.node?]
  simp only [List.getElem?_toArray, List.getElem?_map]
  cases definitions[number]? with
  | none => rfl
  | some definition =>
      simp only [Option.map_some, Option.filter_some]
      cases shows definition.1 <;> rfl

/-- Definitions give a proper grammar, if all their productions are short. -/
theorem proper_ofDefinitions
    (h : (Phrase.flatten (numberIn definitions) definitions definitions.length).1.all
      (fun production => production.body.size < 64 && production.head <
        (Phrase.flatten (numberIn definitions) definitions definitions.length).2) =
      true) :
    (Flat.ofDefinitions definitions shows start).Proper := by
  rw [ofDefinitions_eq]
  have hbounds : ∀ production ∈ (Phrase.flatten (numberIn definitions) definitions
      definitions.length).1.toArray, production.body.size < 64 ∧ production.head <
        (Phrase.flatten (numberIn definitions) definitions definitions.length).2 := by
    intro production hproduction
    have hbound := List.all_eq_true.1 h production (List.mem_toArray.1 hproduction)
    rwa [Bool.and_eq_true, decide_eq_true_iff, decide_eq_true_iff] at hbound
  exact {
    narrow := fun production hproduction => (hbounds production hproduction).1
    grouped := fun number index =>
      mem_groupByHead fun production hproduction => (hbounds production hproduction).2
    supported := (supported_replicate _ _).findNullable _ }

end OfDefinitions

/-! ## What surely stands in a slot -/

/-- Whether what fills a slot surely has a token, as seen by going through at
most `depth` nonterminals. -/
def Symbol.reads (productions : List (Production τ ρ)) : Nat → Symbol τ → Bool
  | _, .terminal _ => true
  | 0, .nonterminal _ => false
  | depth + 1, .nonterminal number =>
    productions.all fun production => production.head != number ||
      production.body.any fun slot => slot.symbol.reads productions depth

/-- Whether a tree in a role surely is among what fills a slot. -/
def Slot.gives [BEq ρ] (productions : List (Production τ ρ)) (shows : Nat → Bool)
    (role : ρ) : Nat → Slot τ ρ → Bool
  | depth, ⟨some given, symbol⟩ => given == role && symbol.reads productions depth
  | depth + 1, ⟨none, .nonterminal number⟩ =>
    !shows number && productions.all fun production => production.head != number ||
      production.body.any (Slot.gives productions shows role depth)
  | _, ⟨none, _⟩ => false

section Gives

variable {grammar : Flat τ κ ρ}

theorem any_of_all {productions : List (Production τ ρ)} {holds : Slot τ ρ → Bool}
    {number : Nat}
    (h : (productions.all fun production =>
      production.head != number || production.body.any holds) = true) :
    ∀ production ∈ productions, production.head = number →
      production.body.any holds = true := by
  intro production hproduction hhead
  have hany := List.all_eq_true.1 h production hproduction
  rw [Bool.or_eq_true, hhead, bne_self_eq_false] at hany
  exact hany.resolve_left Bool.false_ne_true

theorem not_nullable_of_reads (hproper : grammar.Proper) {depth : Nat} {slot : Slot τ ρ}
    (h : slot.symbol.reads grammar.productions.toList depth = true) :
    slot.nullable grammar.nullable = false := by
  induction depth generalizing slot with
  | zero =>
      obtain ⟨role, symbol⟩ := slot
      cases symbol with
      | terminal symbol => rfl
      | nonterminal number => cases h
  | succ depth ih =>
      obtain ⟨role, symbol⟩ := slot
      cases symbol with
      | terminal symbol => rfl
      | nonterminal number =>
          refine Bool.eq_false_iff.2 fun hnullable => ?_
          obtain ⟨production, hproduction, hhead, hslots⟩ :=
            hproper.supported number hnullable
          obtain ⟨slot, hslot, hreads⟩ := Array.any_eq_true'.1
            (any_of_all h production (Array.mem_toList_iff.2 hproduction) hhead)
          have hnot := ih hreads
          rw [hslots slot hslot] at hnot
          cases hnot

theorem reads_of_gives [BEq ρ] {productions : List (Production τ ρ)}
    {shows : Nat → Bool} {role : ρ} {depth : Nat} {slot : Slot τ ρ}
    (h : slot.gives productions shows role depth = true) :
    slot.symbol.reads productions depth = true := by
  induction depth generalizing slot with
  | zero =>
      obtain ⟨_ | given, symbol⟩ := slot
      · cases symbol <;> cases h
      · rw [Slot.gives] at h
        exact (Bool.and_eq_true_iff.1 h).2
  | succ depth ih =>
      obtain ⟨_ | given, symbol⟩ := slot
      · cases symbol with
        | terminal symbol => rfl
        | nonterminal number =>
            rw [Slot.gives, Bool.and_eq_true, List.all_eq_true] at h
            refine List.all_eq_true.2 fun production hproduction => ?_
            have hany := h.2 production hproduction
            rw [Bool.or_eq_true, Array.any_eq_true'] at hany ⊢
            refine hany.imp_right ?_
            rintro ⟨slot, hslot, hgives⟩
            exact ⟨slot, hslot, ih hgives⟩
      · rw [Slot.gives] at h
        exact (Bool.and_eq_true_iff.1 h).2

end Gives

end JavaSurvey.Grammar
