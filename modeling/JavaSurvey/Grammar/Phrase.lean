/-!
# Grammars written as phrases

A language is described by constructs, each defined by a phrase: terminals and
constructs put together by sequence, choice, option and repetition. A phrase may
give its parts a role, by which they are found again in a tree.

For reading, phrases are flattened to productions. Every choice, option and
repetition inside a phrase becomes an auxiliary nonterminal of its own, and so a
production is just a list of slots. Productions keep the order in which the
grammar lists them, because of two readings of the same text the one by the
earlier production is taken.

Nonterminals are numbers: the constructs first, in the order of their
definitions, then the auxiliary ones.
-/

namespace JavaSurvey.Grammar

/-- A phrase over terminals `τ`, constructs `κ` and roles `ρ`. -/
inductive Phrase (τ κ ρ : Type) where
  | terminal (symbol : τ)
  | construct (name : κ)
  | sequence (parts : List (Phrase τ κ ρ))
  | choice (options : List (Phrase τ κ ρ))
  | optional (part : Phrase τ κ ρ)
  | many (part : Phrase τ κ ρ)
  | role (name : ρ) (part : Phrase τ κ ρ)

/-- What stands in a slot of a production. -/
inductive Symbol (τ : Type) where
  | terminal (symbol : τ)
  | nonterminal (number : Nat)
deriving DecidableEq

/-- A place of a production, with the role of what fills it. -/
structure Slot (τ ρ : Type) where
  role : Option ρ
  symbol : Symbol τ

/-- One way to form a nonterminal. -/
structure Production (τ ρ : Type) where
  head : Nat
  body : Array (Slot τ ρ)

namespace Phrase

variable {τ κ ρ : Type}

/-- The productions made so far and the next free number for a nonterminal. -/
structure Builder (τ ρ : Type) where
  productions : Array (Production τ ρ)
  next : Nat

/-- Take a free number for an auxiliary nonterminal. -/
def fresh : StateM (Builder τ ρ) Nat :=
  modifyGet fun builder => (builder.next, { builder with next := builder.next + 1 })

/-- Add a production. -/
def addProduction (head : Nat) (body : List (Slot τ ρ)) : StateM (Builder τ ρ) Unit :=
  modify fun builder =>
    { builder with productions := builder.productions.push ⟨head, body.toArray⟩ }

mutual

/-- The slots for a phrase, where `number` tells the number of a construct. -/
def slots (number : κ → Nat) : Phrase τ κ ρ → StateM (Builder τ ρ) (List (Slot τ ρ))
  | .terminal symbol => pure [⟨none, .terminal symbol⟩]
  | .construct name => pure [⟨none, .nonterminal (number name)⟩]
  | .sequence parts => slotsOfSequence number parts
  | .choice options => do
    let head ← fresh
    addOptions number head options
    pure [⟨none, .nonterminal head⟩]
  | .optional part => do
    let head ← fresh
    addProduction head []
    addProduction head (← slots number part)
    pure [⟨none, .nonterminal head⟩]
  | .many part => do
    let head ← fresh
    addProduction head []
    addProduction head (⟨none, .nonterminal head⟩ :: (← slots number part))
    pure [⟨none, .nonterminal head⟩]
  | .role name part => do
    let inner ← slots number part
    pure (inner.map fun slot => { slot with role := some name })

/-- The slots for phrases that follow each other. -/
def slotsOfSequence (number : κ → Nat) :
    List (Phrase τ κ ρ) → StateM (Builder τ ρ) (List (Slot τ ρ))
  | [] => pure []
  | part :: rest => do
    let first ← slots number part
    let others ← slotsOfSequence number rest
    pure (first ++ others)

/-- One production of `head` for each option. -/
def addOptions (number : κ → Nat) (head : Nat) :
    List (Phrase τ κ ρ) → StateM (Builder τ ρ) Unit
  | [] => pure ()
  | option :: rest => do
    addProduction head (← slots number option)
    addOptions number head rest

end

end Phrase

/-- A flattened grammar. -/
structure Flat (τ κ ρ : Type) where
  /-- The constructs by number, each with whether it shows as a node of a tree. -/
  constructs : Array (κ × Bool)
  productions : Array (Production τ ρ)
  /-- The productions of each nonterminal, in order. -/
  alternatives : Array (List Nat)
  /-- Which nonterminals derive the empty text. -/
  nullable : Array Bool
  /-- The number of the construct that a whole text is read as. -/
  start : Nat

variable {τ κ ρ : Type}

/-- Whether a slot can stay empty, going by the nonterminals known to be nullable. -/
def Slot.nullable (known : Array Bool) (slot : Slot τ ρ) : Bool :=
  match slot.symbol with
  | .terminal _ => false
  | .nonterminal number => known[number]?.getD false

/-- Add the nonterminals that a production of nullable slots shows to be nullable. -/
def growNullable (productions : Array (Production τ ρ)) (known : Array Bool) : Array Bool :=
  productions.foldl
    (fun known production =>
      if production.body.all (Slot.nullable known) then
        known.setIfInBounds production.head true
      else known)
    known

/-- The nullable nonterminals; each round finds one more or changes nothing. -/
def findNullable (productions : Array (Production τ ρ)) : Nat → Array Bool → Array Bool
  | 0, known => known
  | rounds + 1, known =>
    let more := growNullable productions known
    if more == known then known else findNullable productions rounds more

/-- The numbers of the productions of each nonterminal. -/
def groupByHead (productions : Array (Production τ ρ)) (count : Nat) : Array (List Nat) :=
  (productions.mapIdx fun number production => (number, production.head)).foldr
    (fun (number, head) groups => groups.modify head (number :: ·))
    (Array.replicate count [])

/-- Flatten a list of definitions. A choice at the top of a definition becomes the
productions of the construct itself; constructs for which `shows` is false leave
no node of their own in a tree. -/
def Flat.ofDefinitions [BEq κ] (definitions : List (κ × Phrase τ κ ρ)) (shows : κ → Bool)
    (start : κ) : Flat τ κ ρ :=
  let number := fun name => definitions.findIdx fun definition => definition.1 == name
  let define : StateM (Phrase.Builder τ ρ) Unit :=
    definitions.forM fun (name, phrase) =>
      match phrase with
      | .choice options => Phrase.addOptions number (number name) options
      | phrase => Phrase.addOptions number (number name) [phrase]
  let (_, builder) := define.run ⟨#[], definitions.length⟩
  { constructs := (definitions.map fun definition => (definition.1, shows definition.1)).toArray
    productions := builder.productions
    alternatives := groupByHead builder.productions builder.next
    nullable :=
      findNullable builder.productions builder.next (Array.replicate builder.next false)
    start := number start }

/-- The slot of a production at a place. -/
def Flat.slot? (grammar : Flat τ κ ρ) (production place : Nat) : Option (Slot τ ρ) :=
  grammar.productions[production]?.bind fun production => production.body[place]?

/-- The construct of a nonterminal, if it shows as a node of a tree. -/
def Flat.node? (grammar : Flat τ κ ρ) (number : Nat) : Option κ :=
  match grammar.constructs[number]? with
  | some (name, true) => some name
  | _ => none

/-- Whether a nonterminal derives the empty text. -/
def Flat.isNullable (grammar : Flat τ κ ρ) (number : Nat) : Bool :=
  grammar.nullable[number]?.getD false

end JavaSurvey.Grammar
