import Mathlib.Data.List.Induction
import Mathlib.Data.List.Infix
import Mathlib.Data.List.Lex

/-!
# Addresses in trees

An address tells a node of a tree by the way down to it: the numbers of the
children to take. Equal nodes at different places have different addresses, so
addresses can say which node is the parent of which, and in what order nodes
come. A node stands below another one if its address continues the other's, and
nodes come in pre-order exactly if their addresses ascend as lists of numbers.

Nothing here depends on what a tree holds. A tree is given by a function that
tells the children of a node.

## Main results

* `descend_append`, `descend_map`: addresses can be followed in parts, and in
  any image of a tree that has the images of the children.
* `Precedes.lt_of_isPrefix`: what stands below an earlier sibling comes before
  what stands below a later one.
-/

namespace JavaSurvey

/-- The way to a node: the number of the child to take at each step. -/
abbrev Address := List Nat

/-! ## Following an address -/

section Descend

variable {α β : Type}

/-- What stands at an address below a node. -/
def descend (children : α → List α) (root : α) : Address → Option α
  | [] => some root
  | index :: rest =>
    (children root)[index]?.bind fun child => descend children child rest

theorem descend_append (children : α → List α) (root : α)
    (first second : Address) :
    descend children root (first ++ second) =
      (descend children root first).bind
        fun node => descend children node second := by
  induction first generalizing root with
  | nil => rfl
  | cons index first ih =>
      rw [List.cons_append, descend, descend, Option.bind_assoc]
      congr 1
      funext child
      exact ih child

/-- One step further leads to a child. -/
theorem descend_concat (children : α → List α) (root : α) (address : Address)
    (index : Nat) :
    descend children root (address ++ [index]) =
      (descend children root address).bind fun node =>
        (children node)[index]? := by
  rw [descend_append]
  congr 1
  funext node
  rw [descend]
  cases (children node)[index]? <;> rfl

/-- A map that goes along with children goes along with addresses. -/
theorem descend_map {children : α → List α} {children' : β → List β} {f : α → β}
    (h : ∀ node, children' (f node) = (children node).map f) (root : α)
    (address : Address) :
    descend children' (f root) address =
      (descend children root address).map f := by
  induction address generalizing root with
  | nil => rfl
  | cons index address ih =>
      rw [descend, descend, h, List.getElem?_map, Option.bind_map,
        Option.map_bind]
      congr 1
      funext child
      exact ih child

end Descend

/-! ## The order of addresses -/

/-- The addresses part at some node, and the first takes an earlier child. -/
def Precedes (first second : Address) : Prop :=
  ∃ common i j, i < j ∧ common ++ [i] <+: first ∧ common ++ [j] <+: second

/-- Whatever stands below the first comes before whatever stands below the
second. -/
theorem Precedes.lt_of_isPrefix {first second below other : Address}
    (h : Precedes first second) (hbelow : first <+: below)
    (hother : second <+: other) : below < other := by
  obtain ⟨common, i, j, hij, hfirst, hsecond⟩ := h
  obtain ⟨more, rfl⟩ := hfirst.trans hbelow
  obtain ⟨others, rfl⟩ := hsecond.trans hother
  rw [List.append_assoc, List.append_assoc]
  apply List.append_left_lt
  exact List.cons_lt_cons_iff.2 (Or.inl hij)

/-- A node comes before what stands below it. -/
theorem lt_of_isPrefix {above below : Address} (h : above <+: below)
    (hne : above ≠ below) : above < below := by
  obtain ⟨more, rfl⟩ := h
  cases more with
  | nil => exact absurd (List.append_nil above).symm hne
  | cons index more =>
      have hlt : above ++ [] < above ++ index :: more :=
        List.append_left_lt (List.nil_lt_cons index more)
      rwa [List.append_nil] at hlt

/-- What stands properly below a node stands at or below one of its children. -/
theorem exists_child_isPrefix {above below : Address} (h : above <+: below)
    (hne : above ≠ below) : ∃ index, above ++ [index] <+: below := by
  obtain ⟨more, rfl⟩ := h
  cases more with
  | nil => exact absurd (List.append_nil above).symm hne
  | cons index more =>
      exact ⟨index, more, by rw [List.append_assoc, List.singleton_append]⟩

end JavaSurvey
