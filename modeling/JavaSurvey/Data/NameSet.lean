/-!
# Sorted sets of names

A set of names that lists its members in ascending order. Names are ordered by
their characters, which is also the order of their encodings as bytes.
-/

namespace JavaSurvey.Data

/-- A set of names in ascending order. -/
structure NameSet where
  toList : List String
  sorted : toList.Pairwise (· < ·)

namespace NameSet

/-- The set without members. -/
def empty : NameSet := ⟨[], List.Pairwise.nil⟩

/-- Put a name into its place of an ascending list, unless it is there. -/
def insertSorted (name : String) : List String → List String
  | [] => [name]
  | first :: rest =>
    if name < first then name :: first :: rest
    else if first < name then first :: insertSorted name rest
    else first :: rest

theorem mem_insertSorted {name other : String} {names : List String} :
    other ∈ insertSorted name names ↔ other = name ∨ other ∈ names := by
  induction names with
  | nil => simp [insertSorted]
  | cons first rest ih =>
      rw [insertSorted]
      split
      · simp
      next hle =>
        split
        · simp only [List.mem_cons, ih]
          exact or_left_comm
        next hge =>
          have heq : name = first := String.le_antisymm (String.not_lt.1 hge) (String.not_lt.1 hle)
          simp [heq]

theorem pairwise_insertSorted (name : String) {names : List String}
    (h : names.Pairwise (· < ·)) : (insertSorted name names).Pairwise (· < ·) := by
  induction names with
  | nil => simp [insertSorted]
  | cons first rest ih =>
      rw [List.pairwise_cons] at h
      rw [insertSorted]
      split
      next hlt =>
        refine List.pairwise_cons.2 ⟨?_, List.pairwise_cons.2 h⟩
        intro other hother
        rcases List.mem_cons.1 hother with rfl | hother
        · exact hlt
        · exact String.lt_trans hlt (h.1 other hother)
      next =>
        split
        next hlt =>
          refine List.pairwise_cons.2 ⟨?_, ih h.2⟩
          intro other hother
          rcases mem_insertSorted.1 hother with rfl | hother
          · exact hlt
          · exact h.1 other hother
        next => exact List.pairwise_cons.2 h

/-- Add a name. -/
def insert (set : NameSet) (name : String) : NameSet :=
  ⟨insertSorted name set.toList, pairwise_insertSorted name set.sorted⟩

/-- Add several names. -/
def insertAll (set : NameSet) (names : List String) : NameSet :=
  names.foldl insert set

/-- The set of the names of a list. -/
def ofList (names : List String) : NameSet :=
  empty.insertAll names

/-- The number of members. -/
def size (set : NameSet) : Nat :=
  set.toList.length

end NameSet

end JavaSurvey.Data
