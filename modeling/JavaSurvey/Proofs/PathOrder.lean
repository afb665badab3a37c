import JavaSurvey.Files.Path
import Mathlib.Data.List.Lex
import Mathlib.Data.Prod.Lex
import Mathlib.Data.String.Basic

/-!
# The order of paths

Components are ordered by their kind and then by their text, and paths by their
components from the first on. Both are told by a key: the order of paths is the
lexicographic order of lists of keys, and that is where its laws come from.

## Main results

* `le_iff_key_le`: the order of paths by their keys.
* `le_total`, `le_trans`: the order of paths is a total preorder.
* `components_eq_of_le`: paths that are equal in it have the same components.
-/

namespace JavaSurvey.Files

/-! ## Components and paths by their keys -/

/-- What decides the place of a component: its kind, and for a name its text. -/
def Component.key : Component → ℕ ×ₗ String
  | .name text => toLex (Component.rank (.name text), text)
  | component => toLex (component.rank, "")

theorem Component.key_injective : Function.Injective Component.key := by
  intro first second h
  cases first <;> cases second <;> simp_all [Component.key, Component.rank]

theorem Component.before_iff (first second : Component) :
    first.before second = true ↔ first.key < second.key := by
  cases first <;> cases second <;>
    simp [Component.before, Component.key, Component.rank,
      Prod.Lex.toLex_lt_toLex]

theorem componentsLe_iff (first second : List Component) :
    componentsLe first second = true ↔
      first.map Component.key ≤ second.map Component.key := by
  induction first generalizing second with
  | nil => exact iff_of_true rfl (not_lt.1 (List.not_lt_nil _))
  | cons component first ih =>
      cases second with
      | nil =>
          refine iff_of_false Bool.false_ne_true ?_
          exact not_le_of_gt (List.nil_lt_cons _ _)
      | cons other second =>
          rw [componentsLe, Bool.or_eq_true, Bool.and_eq_true, beq_iff_eq, ih,
            Component.before_iff, ← Component.key_injective.eq_iff, ← not_lt,
            ← not_lt, List.map_cons, List.map_cons, List.cons_lt_cons_iff]
          rcases lt_trichotomy component.key other.key with hlt | heq | hgt
          · simp [hlt, hlt.not_gt, hlt.ne']
          · simp [heq]
          · simp [hgt, hgt.not_gt, hgt.ne']

/-- The keys of the components of a path. -/
def pathKey (path : String) : List (ℕ ×ₗ String) :=
  (components path).map Component.key

/-- Paths are ordered as the lists of their keys. -/
theorem le_iff_key_le (first second : String) :
    le first second = true ↔ pathKey first ≤ pathKey second :=
  componentsLe_iff _ _

theorem le_trans (first second third : String) (h : le first second = true)
    (h' : le second third = true) : le first third = true := by
  rw [le_iff_key_le] at h h' ⊢
  exact h.trans h'

theorem le_total (first second : String) :
    (le first second || le second first) = true := by
  rw [Bool.or_eq_true, le_iff_key_le, le_iff_key_le]
  exact LinearOrder.le_total _ _

theorem components_eq_of_le {first second : String} (h : le first second = true)
    (h' : le second first = true) : components first = components second := by
  rw [le_iff_key_le] at h h'
  exact Component.key_injective.list_map (h.antisymm h')

end JavaSurvey.Files
