import Std.Data.HashMap
import Std.Data.HashSet
import JavaSurvey.Grammar.Phrase

/-!
# Reading a text by a grammar

A chart follows every way of reading a text at once. Its column at a place of
the text holds the items: a production, how many of its slots are filled by the
text up to this place, and where its text begins. A column is closed under two
rules: where an item waits for a nonterminal, all productions of it begin; and
where a production is full, the items that waited for it at its beginning move
on. A token leads from one column to the next by every item that waits for a
terminal as which the token can be read.

So the columns know exactly which terminals may come next. This is used twice: a
text that cannot be continued is refused at the very token that fits nowhere, and
a token may be read according to what may stand at its place.
-/

namespace JavaSurvey.Grammar

variable {τ κ ρ σ : Type}

/-- A production of which the first `filled` slots are read, beginning at `origin`. -/
structure Item where
  production : Nat
  filled : Nat
  origin : Nat
deriving DecidableEq, Repr

/-- The item with one more slot filled. -/
def Item.advance (item : Item) : Item :=
  { item with filled := item.filled + 1 }

/-- The items at one place of the text. -/
structure Column where
  items : Array Item := #[]
  /-- The same items, for membership: by origin, production and slots filled. -/
  seen : Std.HashMap Nat (Std.HashSet Nat) := ∅
  /-- The items that wait for a nonterminal. -/
  waiting : Std.HashMap Nat (List Item) := ∅
  /-- Where the nonterminals begin that are complete here. -/
  complete : Std.HashMap Nat (List Nat) := ∅

/-- A number for a production with some slots filled. No production has as many
slots as the factor, so different places have different numbers. -/
def Item.place (item : Item) : Nat :=
  item.production * 64 + item.filled

/-- Whether an item is in the column. -/
def Column.contains (column : Column) (item : Item) : Bool :=
  match column.seen[item.origin]? with
  | some places => places.contains item.place
  | none => false

/-- Put an item into the column, unless it is there already. -/
def Column.add (grammar : Flat τ κ ρ) (column : Column) (item : Item) : Column :=
  if column.contains item then column
  else
    let column :=
      { column with
        items := column.items.push item
        seen := column.seen.alter item.origin fun places =>
          some ((places.getD ∅).insert item.place) }
    match grammar.productions[item.production]? with
    | none => column
    | some production =>
      match production.body[item.filled]? with
      | some ⟨_, .nonterminal number⟩ =>
        { column with
          waiting := column.waiting.alter number fun items => some (item :: items.getD []) }
      | some ⟨_, .terminal _⟩ => column
      | none =>
        { column with
          complete := column.complete.alter production.head fun origins =>
            some (item.origin :: origins.getD []) }

/-- The column with everything that follows from one of its items. The columns to
the left are `before`; a nonterminal that is complete where it begins is passed
over already when it is begun. -/
def Column.follow (grammar : Flat τ κ ρ) (before : Array Column) (column : Column)
    (item : Item) : Column :=
  match grammar.productions[item.production]? with
  | none => column
  | some production =>
    match production.body[item.filled]? with
    | some ⟨_, .terminal _⟩ => column
    | some ⟨_, .nonterminal number⟩ =>
      let begun := (grammar.alternatives[number]?.getD []).foldl
        (fun column alternative => column.add grammar ⟨alternative, 0, before.size⟩) column
      if grammar.isNullable number then begun.add grammar item.advance else begun
    | none =>
      match before[item.origin]? with
      | none => column
      | some origin =>
        (origin.waiting[production.head]?.getD []).foldl
          (fun column waiting => column.add grammar waiting.advance) column

/-- Follow the items of a column from the one numbered `next` on, the newly added
ones included. -/
def Column.close (grammar : Flat τ κ ρ) (before : Array Column) :
    Nat → Nat → Column → Column
  | 0, _, column => column
  | fuel + 1, next, column =>
    match column.items[next]? with
    | none => column
    | some item => Column.close grammar before fuel (next + 1) (column.follow grammar before item)

/-- The column that holds the given items and what follows from them. There are
no more items than slots to fill and places to begin at. -/
def Column.ofItems (grammar : Flat τ κ ρ) (before : Array Column) (items : List Item) :
    Column :=
  let first : Column := items.foldl (Column.add grammar) {}
  first.close grammar before (grammar.productions.size * 64 * (before.size + 1)) 0

/-- Whether a terminal may come next. -/
def Column.expects [BEq τ] (grammar : Flat τ κ ρ) (column : Column) (terminal : τ) : Bool :=
  column.items.any fun item =>
    match grammar.slot? item.production item.filled with
    | some ⟨_, .terminal expected⟩ => expected == terminal
    | _ => false

/-- The items that move on over a token that can be read as one of the terminals. -/
def Column.scan [BEq τ] (grammar : Flat τ κ ρ) (column : Column) (readings : List τ) :
    List Item :=
  column.items.toList.filterMap fun item =>
    match grammar.slot? item.production item.filled with
    | some ⟨_, .terminal expected⟩ =>
      if readings.contains expected then some item.advance else none
    | _ => none

/-- The columns for the tokens, after the columns `before` and the column `current`;
or the number of the token that fits nowhere. `readings` tells as what a token can
be read, given which terminals may come next. -/
def readColumns [BEq τ] (grammar : Flat τ κ ρ) (readings : (τ → Bool) → σ → List τ)
    (before : Array Column) (current : Column) : List σ → Except Nat (Array Column)
  | [] => .ok (before.push current)
  | token :: rest =>
    match current.scan grammar (readings (current.expects grammar) token) with
    | [] => .error before.size
    | items =>
      let before := before.push current
      readColumns grammar readings before (Column.ofItems grammar before items) rest

/-- Whether a nonterminal is complete in the column, begun at `origin`. -/
def Column.completes (column : Column) (number origin : Nat) : Bool :=
  (column.complete[number]?.getD []).contains origin

/-- The chart of a whole text; or the number of the token that fits nowhere, which
is the number of tokens if the text ends too early. -/
def chart [BEq τ] (grammar : Flat τ κ ρ) (readings : (τ → Bool) → σ → List τ)
    (tokens : List σ) : Except Nat (Array Column) := do
  let begun := (grammar.alternatives[grammar.start]?.getD []).map fun alternative =>
    (⟨alternative, 0, 0⟩ : Item)
  let columns ← readColumns grammar readings #[] (Column.ofItems grammar #[] begun) tokens
  match columns.back? with
  | some last => if last.completes grammar.start 0 then .ok columns else .error tokens.length
  | none => .error tokens.length

end JavaSurvey.Grammar
