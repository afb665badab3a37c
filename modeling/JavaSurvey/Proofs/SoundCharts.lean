import JavaSurvey.Grammar.Chart

/-!
# Charts hold nothing without a reason

A chart is filled by adding items to columns, and every addition has a reason:
an item is begun, or it goes on from an earlier item over a token, over nothing
or over a nonterminal that is complete. `Explained` lists these reasons. A column
is `Sound` if all its items have one and its tables for look-up, for waiting
items and for complete nonterminals say about the items what they should.

Only adding an item is ever looked into. Following an item, closing a column and
reading the next token add items that are explained, and so keep columns sound.

## Main results

* `Column.Sound.add`: a column stays sound with one more explained item.
* `Column.Sound.follow`: what follows from an item is explained.
* `sound_of_chart`: all columns of a chart are sound.
-/

namespace JavaSurvey.Grammar

variable {τ κ ρ : Type}

/-! ## Adding items -/

namespace Column

/-- The items that wait for a nonterminal. -/
def waitingFor (column : Column) (number : Nat) : List Item :=
  column.waiting[number]?.getD []

/-- Where the nonterminals with a number begin that are complete. -/
def origins (column : Column) (number : Nat) : List Nat :=
  column.complete[number]?.getD []

variable {grammar : Flat τ κ ρ} {column : Column} {item other : Item}

theorem add_of_contains (h : column.contains item = true) :
    column.add grammar item = column := by
  rw [add, if_pos h]

/-- What is common to all new items: each is listed and can be looked up. -/
theorem add_of_not_contains (h : ¬ column.contains item = true) :
    (column.add grammar item).items = column.items.push item ∧
      (column.add grammar item).seen =
        column.seen.alter item.origin fun places =>
          some ((places.getD ∅).insert item.place) := by
  rw [add, if_neg h]
  cases grammar.productions[item.production]? with
  | none => exact ⟨rfl, rfl⟩
  | some production =>
      dsimp only
      split <;> exact ⟨rfl, rfl⟩

theorem mem_items_add :
    other ∈ (column.add grammar item).items ↔
      other ∈ column.items ∨ ¬ column.contains item = true ∧ other = item := by
  by_cases h : column.contains item = true
  · rw [add_of_contains h]
    simp [h]
  · rw [(add_of_not_contains h).1, Array.mem_push]
    simp [h]

theorem contains_add :
    (column.add grammar item).contains other = true ↔
      column.contains other = true ∨
        item.origin = other.origin ∧ item.place = other.place := by
  by_cases h : column.contains item = true
  · rw [add_of_contains h]
    constructor
    · exact Or.inl
    · rintro (hother | ⟨horigin, hplace⟩)
      · exact hother
      · rwa [contains, ← horigin, ← hplace]
  · rw [contains, (add_of_not_contains h).2, Std.HashMap.getElem?_alter]
    by_cases horigin : item.origin = other.origin
    · simp only [horigin, beq_self_eq_true, if_true, Std.HashSet.contains_insert,
        Bool.or_eq_true, beq_iff_eq, true_and, contains]
      cases column.seen[other.origin]? <;> simp [or_comm]
    · simp [horigin, contains]

/-- Only a new item begins to wait, and only for what its next slot asks for. -/
theorem mem_waitingFor_add {number : Nat}
    (h : other ∈ (column.add grammar item).waitingFor number) :
    other ∈ column.waitingFor number ∨
      other = item ∧ ¬ column.contains item = true ∧
        ∃ role, grammar.slot? item.production item.filled =
          some ⟨role, .nonterminal number⟩ := by
  by_cases hold : column.contains item = true
  · rw [add_of_contains hold] at h
    exact Or.inl h
  · rw [add, if_neg hold] at h
    cases hproduction : grammar.productions[item.production]? with
    | none =>
        simp only [hproduction] at h
        exact Or.inl h
    | some production =>
        simp only [hproduction] at h
        split at h
        next role symbol hslot =>
          dsimp only [waitingFor] at h
          rw [Std.HashMap.getElem?_alter] at h
          by_cases hnumber : symbol = number
          · subst hnumber
            simp only [beq_self_eq_true, if_true, Option.getD_some,
              List.mem_cons] at h
            rcases h with rfl | h
            · refine Or.inr ⟨rfl, hold, role, ?_⟩
              rw [Flat.slot?, hproduction]
              exact hslot
            · exact Or.inl h
          · simp only [beq_iff_eq, hnumber, if_false] at h
            exact Or.inl h
        next => exact Or.inl h
        next => exact Or.inl h

/-- A new item completes its nonterminal exactly if all its slots are filled. -/
theorem mem_origins_add {number origin : Nat} :
    origin ∈ (column.add grammar item).origins number ↔
      origin ∈ column.origins number ∨
        ¬ column.contains item = true ∧ origin = item.origin ∧
          ∃ production, grammar.productions[item.production]? = some production ∧
            production.head = number ∧ production.body.size ≤ item.filled := by
  by_cases hold : column.contains item = true
  · rw [add_of_contains hold]
    simp [hold]
  · rw [add, if_neg hold]
    cases hproduction : grammar.productions[item.production]? with
    | none => simp [origins]
    | some production =>
        simp only [Option.some.injEq, exists_eq_left']
        cases hslot : production.body[item.filled]? with
        | some slot =>
            have hfilled := (Array.getElem?_eq_some_iff.1 hslot).1
            obtain ⟨role, symbol⟩ := slot
            cases symbol <;> simp [origins, Nat.not_le.2 hfilled]
        | none =>
            have hfull := Array.getElem?_eq_none_iff.1 hslot
            dsimp only [origins]
            rw [Std.HashMap.getElem?_alter]
            by_cases hnumber : production.head = number
            · simp [hnumber, hold, hfull, or_comm]
            · simp [hnumber]

end Column

/-! ## Why an item is in a column -/

/-- Why an item stands in a column behind the columns `before`: it was begun
there, or it is an earlier item whose next slot was filled by a token, by
nothing, or by a nonterminal that is complete. -/
inductive Explained (grammar : Flat τ κ ρ) (canRead : Nat → τ → Prop)
    (before : Array Column) (column : Column) : Item → Prop where
  | begun (production : Nat) :
      Explained grammar canRead before column ⟨production, 0, before.size⟩
  | scanned {production filled origin : Nat} {role : Option ρ} {terminal : τ}
      {previous : Column}
      (hslot : grammar.slot? production filled = some ⟨role, .terminal terminal⟩)
      (hprevious : before.back? = some previous)
      (hitem : ⟨production, filled, origin⟩ ∈ previous.items)
      (hread : canRead (before.size - 1) terminal) :
      Explained grammar canRead before column ⟨production, filled + 1, origin⟩
  | skipped {production filled origin : Nat} {role : Option ρ} {number : Nat}
      (hslot : grammar.slot? production filled = some ⟨role, .nonterminal number⟩)
      (hnullable : grammar.isNullable number = true)
      (hitem : ⟨production, filled, origin⟩ ∈ column.items) :
      Explained grammar canRead before column ⟨production, filled + 1, origin⟩
  | completed {production filled origin : Nat} {role : Option ρ} {number : Nat}
      {place : Nat} {earlier : Column}
      (hslot : grammar.slot? production filled = some ⟨role, .nonterminal number⟩)
      (hearlier : before[place]? = some earlier)
      (hitem : ⟨production, filled, origin⟩ ∈ earlier.items)
      (hcomplete : place ∈ column.origins number) :
      Explained grammar canRead before column ⟨production, filled + 1, origin⟩

section Sound

variable {grammar : Flat τ κ ρ} {canRead : Nat → τ → Prop} {before : Array Column}
  {column grown : Column} {item : Item}

/-- A column has become another one by gaining items. -/
structure Column.Grows (column grown : Column) : Prop where
  items : ∀ item ∈ column.items, item ∈ grown.items
  origins : ∀ number, column.origins number ⊆ grown.origins number

theorem Column.Grows.refl (column : Column) : column.Grows column :=
  ⟨fun _ hitem => hitem, fun _ _ horigin => horigin⟩

theorem Column.Grows.trans {first second third : Column}
    (h : first.Grows second) (h' : second.Grows third) : first.Grows third :=
  ⟨fun item hitem => h'.items item (h.items item hitem),
    fun number _ horigin => h'.origins number (h.origins number horigin)⟩

theorem Column.grows_add (grammar : Flat τ κ ρ) (column : Column) (item : Item) :
    column.Grows (column.add grammar item) :=
  ⟨fun _ hother => Column.mem_items_add.2 (Or.inl hother),
    fun _ _ horigin => Column.mem_origins_add.2 (Or.inl horigin)⟩

/-- A column that grows loses no explanation. -/
theorem Explained.mono (h : Explained grammar canRead before column item)
    (hgrows : column.Grows grown) :
    Explained grammar canRead before grown item := by
  cases h with
  | begun production => exact .begun production
  | scanned hslot hprevious hitem hread =>
      exact .scanned hslot hprevious hitem hread
  | skipped hslot hnullable hitem =>
      exact .skipped hslot hnullable (hgrows.items _ hitem)
  | completed hslot hearlier hitem hcomplete =>
      exact .completed hslot hearlier hitem (hgrows.origins _ hcomplete)

/-- No more slots are filled than there are. -/
theorem Explained.filled_le {production : Production τ ρ}
    (h : Explained grammar canRead before column item)
    (hproduction : grammar.productions[item.production]? = some production) :
    item.filled ≤ production.body.size := by
  have hslot : ∀ {filled : Nat} {slot : Slot τ ρ},
      grammar.slot? item.production filled = some slot →
      filled < production.body.size := by
    intro filled slot hslot
    rw [Flat.slot?, hproduction] at hslot
    exact (Array.getElem?_eq_some_iff.1 hslot).1
  cases h with
  | begun => exact Nat.zero_le _
  | scanned h => exact hslot h
  | skipped h => exact hslot h
  | completed h => exact hslot h

/-- Everything in a column is explained, and its tables agree with its items. -/
structure Column.Sound (grammar : Flat τ κ ρ) (canRead : Nat → τ → Prop)
    (before : Array Column) (column : Column) : Prop where
  explained : ∀ item ∈ column.items, Explained grammar canRead before column item
  contains_iff : ∀ item, column.contains item = true ↔
    ∃ other ∈ column.items, other.origin = item.origin ∧ other.place = item.place
  waiting : ∀ number, ∀ item ∈ column.waitingFor number, item ∈ column.items ∧
    ∃ role, grammar.slot? item.production item.filled =
      some ⟨role, .nonterminal number⟩
  complete_iff : ∀ number origin, origin ∈ column.origins number ↔
    ∃ index production, grammar.productions[index]? = some production ∧
      production.head = number ∧
      (⟨index, production.body.size, origin⟩ : Item) ∈ column.items

/-- A column grows by an explained item. -/
theorem Column.Sound.add (h : column.Sound grammar canRead before)
    (hitem : Explained grammar canRead before column item) :
    (column.add grammar item).Sound grammar canRead before := by
  have hgrows := Column.grows_add grammar column item
  refine ⟨?_, ?_, ?_, ?_⟩
  · intro other hother
    rcases Column.mem_items_add.1 hother with hold | ⟨_, rfl⟩
    · exact (h.explained other hold).mono hgrows
    · exact hitem.mono hgrows
  · intro other
    rw [Column.contains_add, h.contains_iff]
    constructor
    · rintro (⟨found, hfound, hsame⟩ | hsame)
      · exact ⟨found, hgrows.items found hfound, hsame⟩
      · by_cases hold : column.contains item = true
        · obtain ⟨found, hfound, horigin, hplace⟩ := (h.contains_iff item).1 hold
          exact ⟨found, hgrows.items found hfound, horigin.trans hsame.1,
            hplace.trans hsame.2⟩
        · exact ⟨item, Column.mem_items_add.2 (Or.inr ⟨hold, rfl⟩), hsame⟩
    · rintro ⟨found, hfound, hsame⟩
      rcases Column.mem_items_add.1 hfound with hold | ⟨_, rfl⟩
      · exact Or.inl ⟨found, hold, hsame⟩
      · exact Or.inr hsame
  · intro number other hother
    rcases Column.mem_waitingFor_add hother with hold | ⟨rfl, hnew, hslot⟩
    · obtain ⟨hmem, hslot⟩ := h.waiting number other hold
      exact ⟨hgrows.items other hmem, hslot⟩
    · exact ⟨Column.mem_items_add.2 (Or.inr ⟨hnew, rfl⟩), hslot⟩
  · intro number origin
    rw [Column.mem_origins_add, h.complete_iff]
    constructor
    · rintro (⟨index, production, hproduction, hhead, hmem⟩ |
        ⟨hnew, rfl, production, hproduction, hhead, hfull⟩)
      · exact ⟨index, production, hproduction, hhead, hgrows.items _ hmem⟩
      · refine ⟨item.production, production, hproduction, hhead, ?_⟩
        rw [Nat.le_antisymm hfull (hitem.filled_le hproduction)]
        exact Column.mem_items_add.2 (Or.inr ⟨hnew, rfl⟩)
    · rintro ⟨index, production, hproduction, hhead, hmem⟩
      rcases Column.mem_items_add.1 hmem with hold | ⟨hnew, rfl⟩
      · exact Or.inl ⟨index, production, hproduction, hhead, hold⟩
      · exact Or.inr ⟨hnew, rfl, production, hproduction, hhead, Nat.le_refl _⟩

/-! ## Closing a column -/

theorem Column.Sound.addAll (h : column.Sound grammar canRead before)
    (items : List Item)
    (hitems : ∀ item ∈ items, Explained grammar canRead before column item) :
    (items.foldl (Column.add grammar) column).Sound grammar canRead before ∧
      column.Grows (items.foldl (Column.add grammar) column) := by
  induction items generalizing column with
  | nil => exact ⟨h, .refl column⟩
  | cons item items ih =>
      obtain ⟨hitem, hrest⟩ := List.forall_mem_cons.1 hitems
      have hgrows := Column.grows_add grammar column item
      obtain ⟨hsound, hmore⟩ := ih (h.add hitem)
        fun other hother => (hrest other hother).mono hgrows
      exact ⟨hsound, hgrows.trans hmore⟩

/-- All columns of a chart are sound, each behind the ones before it. -/
def SoundColumns (grammar : Flat τ κ ρ) (canRead : Nat → τ → Prop)
    (columns : Array Column) : Prop :=
  ∀ (place : Nat) (column : Column), columns[place]? = some column →
    column.Sound grammar canRead (columns.take place)

/-- What follows from an item of a column is explained. -/
theorem Column.Sound.follow (hbefore : SoundColumns grammar canRead before)
    (h : column.Sound grammar canRead before) (hitem : item ∈ column.items) :
    (column.follow grammar before item).Sound grammar canRead before ∧
      column.Grows (column.follow grammar before item) := by
  rw [Column.follow]
  cases hproduction : grammar.productions[item.production]? with
  | none => exact ⟨h, .refl column⟩
  | some production =>
      dsimp only
      split
      next => exact ⟨h, .refl column⟩
      next role number hslot =>
        have hnext : grammar.slot? item.production item.filled =
            some ⟨role, .nonterminal number⟩ := by
          rw [Flat.slot?, hproduction]
          exact hslot
        have hbegun := h.addAll
          ((grammar.alternatives[number]?.getD []).map
            fun alternative => ⟨alternative, 0, before.size⟩) (by
          intro other hother
          obtain ⟨alternative, _, rfl⟩ := List.mem_map.1 hother
          exact .begun alternative)
        rw [List.foldl_map] at hbegun
        split
        next hnullable =>
          refine ⟨hbegun.1.add ?_, hbegun.2.trans (Column.grows_add grammar _ _)⟩
          exact .skipped hnext hnullable (hbegun.2.items item hitem)
        next => exact hbegun
      next hslot =>
        cases hearlier : before[item.origin]? with
        | none => exact ⟨h, .refl column⟩
        | some earlier =>
            have hfull : item.filled = production.body.size :=
              Nat.le_antisymm ((h.explained item hitem).filled_le hproduction)
                (Array.getElem?_eq_none_iff.1 hslot)
            have hcomplete : item.origin ∈ column.origins production.head := by
              refine (h.complete_iff _ _).2
                ⟨item.production, production, hproduction, rfl, ?_⟩
              rw [← hfull]
              exact hitem
            have hwaiting := h.addAll
              ((earlier.waitingFor production.head).map Item.advance) (by
              intro other hother
              obtain ⟨waiting, hmem, rfl⟩ := List.mem_map.1 hother
              obtain ⟨hold, role, hslot⟩ :=
                (hbefore item.origin earlier hearlier).waiting _ waiting hmem
              exact .completed hslot hearlier hold hcomplete)
            rw [List.foldl_map] at hwaiting
            exact hwaiting

theorem Column.Sound.close (hbefore : SoundColumns grammar canRead before)
    (h : column.Sound grammar canRead before) (fuel next : Nat) :
    (Column.close grammar before fuel next column).Sound grammar canRead before := by
  induction fuel generalizing next column with
  | zero => exact h
  | succ fuel ih =>
      rw [Column.close]
      cases hitem : column.items[next]? with
      | none => exact h
      | some item =>
          exact ih (h.follow hbefore (Array.mem_of_getElem? hitem)).1 (next + 1)

theorem Column.sound_empty :
    ({} : Column).Sound grammar canRead before := by
  refine ⟨by simp, ?_, ?_, ?_⟩
  · intro item
    simp [Column.contains]
  · intro number item hitem
    simp [Column.waitingFor] at hitem
  · intro number origin
    simp [Column.origins]

theorem Column.sound_ofItems {items : List Item}
    (hbefore : SoundColumns grammar canRead before)
    (hitems : ∀ item ∈ items, Explained grammar canRead before {} item) :
    (Column.ofItems grammar before items).Sound grammar canRead before :=
  (Column.sound_empty.addAll items hitems).1.close hbefore _ _

theorem SoundColumns.push (h : SoundColumns grammar canRead before)
    (hcolumn : column.Sound grammar canRead before) :
    SoundColumns grammar canRead (before.push column) := by
  intro place other hother
  rw [Array.getElem?_push] at hother
  rw [Array.take_eq_extract]
  split at hother
  next hplace =>
    cases hother
    rw [hplace, Array.extract_push_of_le (Nat.le_refl _), Array.extract_size]
    exact hcolumn
  next =>
    have hplace := (Array.getElem?_eq_some_iff.1 hother).1
    rw [Array.extract_push_of_le (Nat.le_of_lt hplace), ← Array.take_eq_extract]
    exact h place other hother

end Sound

/-! ## Charts -/

section Charts

variable {σ : Type} [BEq τ] [LawfulBEq τ] {grammar : Flat τ κ ρ}
  {readings : (τ → Bool) → σ → List τ}

/-- The token at a place can be read as a terminal, if the terminals that may
stand there are the right ones. -/
def CanRead (readings : (τ → Bool) → σ → List τ) (tokens : List σ) (place : Nat)
    (terminal : τ) : Prop :=
  ∃ token may, tokens[place]? = some token ∧ terminal ∈ readings may token

theorem explained_of_mem_scan {tokens : List σ} {before : Array Column}
    {current : Column} {token : σ} {may : τ → Bool} {item : Item}
    (htoken : tokens[before.size]? = some token)
    (h : item ∈ current.scan grammar (readings may token)) (column : Column) :
    Explained grammar (CanRead readings tokens) (before.push current) column
      item := by
  obtain ⟨earlier, hearlier, h⟩ := List.mem_filterMap.1 h
  split at h
  next role expected hslot =>
    split at h
    next hread =>
      cases h
      refine .scanned hslot (Array.back?_push ..) (Array.mem_toList_iff.1 hearlier) ?_
      refine ⟨token, may, ?_, List.contains_iff_mem.1 hread⟩
      rw [Array.size_push, Nat.add_sub_cancel]
      exact htoken
    next => cases h
  next => cases h

theorem sound_of_readColumns {tokens : List σ} {done rest : List σ}
    {before columns : Array Column} {current : Column}
    (htokens : tokens = done ++ rest) (hdone : done.length = before.size)
    (hbefore : SoundColumns grammar (CanRead readings tokens) before)
    (hcurrent : current.Sound grammar (CanRead readings tokens) before)
    (h : readColumns grammar readings before current rest = .ok columns) :
    SoundColumns grammar (CanRead readings tokens) columns ∧
      columns.size = tokens.length + 1 := by
  induction rest generalizing done before current with
  | nil =>
      cases h
      refine ⟨hbefore.push hcurrent, ?_⟩
      rw [Array.size_push, htokens, List.append_nil, hdone]
  | cons token rest ih =>
      have htoken : tokens[before.size]? = some token := by
        rw [htokens, ← hdone, List.getElem?_append_right (Nat.le_refl _),
          Nat.sub_self]
        rfl
      rw [readColumns] at h
      split at h
      next => cases h
      next items hitems =>
        have hrest : tokens = (done ++ [token]) ++ rest := by
          rw [htokens, List.append_assoc, List.singleton_append]
        have hnext : (done ++ [token]).length = (before.push current).size := by
          rw [List.length_append, Array.size_push, hdone]
          rfl
        refine ih hrest hnext (hbefore.push hcurrent) ?_ h
        refine Column.sound_ofItems (hbefore.push hcurrent) ?_
        intro item hitem
        exact explained_of_mem_scan htoken hitem {}

/-- A chart is sound, and complete where the text ends. -/
theorem sound_of_chart {tokens : List σ} {columns : Array Column}
    (h : chart grammar readings tokens = .ok columns) :
    SoundColumns grammar (CanRead readings tokens) columns ∧
      columns.size = tokens.length + 1 := by
  have hnone : SoundColumns grammar (CanRead readings tokens) #[] := by
    intro place column hcolumn
    cases hcolumn
  have hbegun : ∀ item ∈ (grammar.alternatives[grammar.start]?.getD []).map
      fun alternative => (⟨alternative, 0, 0⟩ : Item),
      Explained grammar (CanRead readings tokens) #[] {} item := by
    intro item hitem
    obtain ⟨alternative, _, rfl⟩ := List.mem_map.1 hitem
    exact .begun alternative
  rw [chart] at h
  cases hread : readColumns grammar readings #[]
      (Column.ofItems grammar #[]
        ((grammar.alternatives[grammar.start]?.getD []).map
          fun alternative => ⟨alternative, 0, 0⟩)) tokens with
  | error number =>
      rw [hread] at h
      cases h
  | ok read =>
      have hsound := sound_of_readColumns (List.nil_append tokens).symm rfl hnone
        (Column.sound_ofItems hnone hbegun) hread
      rw [hread] at h
      have heq : read = columns := by
        simp only [bind, Except.bind] at h
        split at h
        next =>
          split at h
          next =>
            cases h
            rfl
          next => cases h
        next => cases h
      exact heq ▸ hsound

end Charts

end JavaSurvey.Grammar
