import JavaSurvey.Grammar.Chart

/-!
# Derivations

A derivation says by which constructs a text was read. Only constructs that show
are nodes; what a hidden construct or an auxiliary nonterminal derives stands in
its place. Leaves are the tokens of the text.

A derivation is taken from a chart from right to left: the last slot of a full
production ends where the production ends, and it begins at a place where the
slots before it are filled. Where a nonterminal has several productions over the
same stretch, the first of the grammar is taken.
-/

namespace JavaSurvey.Grammar

variable {τ κ ρ σ : Type}

/-- A tree over tokens `σ`, whose nodes and leaves may have a role. -/
inductive Derivation (σ κ ρ : Type) where
  | leaf (role : Option ρ) (token : σ)
  | node (role : Option ρ) (construct : κ) (children : List (Derivation σ κ ρ))

/-- The same tree in another role. -/
def Derivation.withRole (role : ρ) : Derivation σ κ ρ → Derivation σ κ ρ
  | .leaf _ token => .leaf (some role) token
  | .node _ construct children => .node (some role) construct children

/-- Give the trees a role, if there is one to give. -/
def Derivation.withRoles (role : Option ρ) (trees : List (Derivation σ κ ρ)) :
    List (Derivation σ κ ρ) :=
  match role with
  | some role => trees.map (Derivation.withRole role)
  | none => trees

/-- The full item of the first production of a nonterminal over a stretch of text. -/
def fullItem? (grammar : Flat τ κ ρ) (column : Column) (number origin : Nat) : Option Item :=
  (grammar.alternatives[number]?.getD []).findSome? fun alternative =>
    let item : Item := ⟨alternative, grammar.productions[alternative]?.elim 0 (·.body.size), origin⟩
    if column.contains item then some item else none

/-- The full item that fills the slot after `item` up to `stop`, if it is not empty. -/
def fillingItem? (grammar : Flat τ κ ρ) (columns : Array Column) (item : Item)
    (number stop : Nat) : Option Item := do
  let column ← columns[stop]?
  let origin ← (column.complete[number]?.getD []).find? fun origin =>
    origin < stop && (columns[origin]?.elim false (·.contains item))
  fullItem? grammar column number origin

/-- The trees for the filled slots of an item that ends at `stop`, put before the
trees `after`. -/
def derive (grammar : Flat τ κ ρ) (columns : Array Column) (tokens : Array σ) :
    Nat → Item → Nat → List (Derivation σ κ ρ) → Option (List (Derivation σ κ ρ))
  | 0, _, _, _ => none
  | _, ⟨_, 0, _⟩, _, after => some after
  | fuel + 1, ⟨production, filled + 1, origin⟩, stop, after => do
    let before : Item := ⟨production, filled, origin⟩
    let slot ← grammar.slot? production filled
    match slot.symbol with
    | .terminal _ =>
      let token ← tokens[stop - 1]?
      derive grammar columns tokens fuel before (stop - 1) (.leaf slot.role token :: after)
    | .nonterminal number =>
      match fillingItem? grammar columns before number stop with
      | none => derive grammar columns tokens fuel before stop after
      | some inner =>
        match grammar.node? number, slot.role with
        | some construct, role =>
          let children ← derive grammar columns tokens fuel inner stop []
          derive grammar columns tokens fuel before inner.origin
            (.node role construct children :: after)
        | none, none =>
          let spliced ← derive grammar columns tokens fuel inner stop after
          derive grammar columns tokens fuel before inner.origin spliced
        | none, some role =>
          let spliced ← derive grammar columns tokens fuel inner stop []
          derive grammar columns tokens fuel before inner.origin
            (Derivation.withRoles (some role) spliced ++ after)

/-- Read a text as the start construct of the grammar: the trees below the root, or
the number of the token that fits nowhere. Going down in a chart shortens the
text, or else goes to a nonterminal not met before over the same text. -/
def Flat.read [BEq τ] (grammar : Flat τ κ ρ) (readings : (τ → Bool) → σ → List τ)
    (tokens : Array σ) : Except Nat (List (Derivation σ κ ρ)) := do
  let columns ← chart grammar readings tokens.toList
  let fuel := (tokens.size + 1) * (grammar.alternatives.size + 1) * 64
  let derived := do
    let last ← columns[tokens.size]?
    let item ← fullItem? grammar last grammar.start 0
    derive grammar columns tokens fuel item tokens.size []
  match derived with
  | some trees => .ok trees
  | none => .error tokens.size

end JavaSurvey.Grammar
