/-!
# Sets and maps that remember the order of insertion

An ordered set lists its members in the order in which they first came. An ordered
map does the same for its keys; writing to a key that is there replaces the value
and leaves the key in its place.
-/

namespace JavaSurvey.Data

/-- A set that lists its members in the order of first insertion. -/
structure OrderedSet (α : Type) where
  toList : List α
  nodup : toList.Nodup

namespace OrderedSet

variable {α : Type}

/-- The set without members. -/
def empty : OrderedSet α := ⟨[], List.nodup_nil⟩

variable [DecidableEq α]

/-- Whether a value is a member. -/
def contains (set : OrderedSet α) (a : α) : Bool :=
  decide (a ∈ set.toList)

/-- Add a member behind the others, unless it is one already. -/
def insert (set : OrderedSet α) (a : α) : OrderedSet α :=
  if h : a ∈ set.toList then set
  else
    ⟨set.toList ++ [a], by
      rw [List.nodup_append]
      refine ⟨set.nodup, by simp, ?_⟩
      intro x hx y hy
      rw [List.mem_singleton] at hy
      subst hy
      intro hxy
      exact h (hxy ▸ hx)⟩

/-- The set of the members of a list. -/
def ofList (values : List α) : OrderedSet α :=
  values.foldl insert empty

end OrderedSet

/-- A map that lists its keys in the order of first insertion. -/
structure OrderedMap (α β : Type) where
  entries : List (α × β)
  nodup : (entries.map Prod.fst).Nodup

namespace OrderedMap

variable {α β : Type}

/-- The map without keys. -/
def empty : OrderedMap α β := ⟨[], List.nodup_nil⟩

/-- The number of keys. -/
def size (map : OrderedMap α β) : Nat :=
  map.entries.length

variable [DecidableEq α]

/-- The value of a key. -/
def get? (map : OrderedMap α β) (key : α) : Option β :=
  (map.entries.find? fun entry => decide (entry.1 = key)).map Prod.snd

/-- The entries after giving a new value to a key, where it stands. -/
def replaceValue (key : α) (value : β) (entries : List (α × β)) : List (α × β) :=
  entries.map fun entry => if entry.1 = key then (entry.1, value) else entry

theorem keys_replaceValue (key : α) (value : β) (entries : List (α × β)) :
    (replaceValue key value entries).map Prod.fst = entries.map Prod.fst := by
  rw [replaceValue, List.map_map]
  apply List.map_congr_left
  intro entry _
  simp only [Function.comp]
  split <;> rfl

/-- Give a key a value: in its place if the key is there, behind the others if not. -/
def insert (map : OrderedMap α β) (key : α) (value : β) : OrderedMap α β :=
  if h : key ∈ map.entries.map Prod.fst then
    ⟨replaceValue key value map.entries, by
      rw [keys_replaceValue]
      exact map.nodup⟩
  else
    ⟨map.entries ++ [(key, value)], by
      rw [List.map_append, List.nodup_append]
      refine ⟨map.nodup, by simp, ?_⟩
      intro x hx y hy
      rw [List.map_singleton, List.mem_singleton] at hy
      subst hy
      intro hxy
      exact h (hxy ▸ hx)⟩

/-- The map that results from inserting entries one after the other. -/
def ofList (entries : List (α × β)) : OrderedMap α β :=
  entries.foldl (fun map entry => map.insert entry.1 entry.2) empty

end OrderedMap

end JavaSurvey.Data
