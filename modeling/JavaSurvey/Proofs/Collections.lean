import JavaSurvey.Data.NameSet
import JavaSurvey.Data.OrderedSet
import Mathlib.Algebra.GroupWithZero.Nat
import Mathlib.Data.List.Induction
import Mathlib.Data.List.Sort

/-!
# What sets and maps list

`List.eraseDups` keeps the first occurrence of each value of a list. It is what
insertion into an ordered set computes: whatever is inserted, and however the
insertions are grouped, the set lists the first occurrences of the sequence of
all values that were ever inserted. The keys of an ordered map obey the same
law, and the value of a key is the last one that was given to it.

So a fact about the order of members never needs the insertions themselves. It
is a fact about `eraseDups` of a concatenation, and the lemmas of the first
section are the ones such facts come down to. Sorted sets need less: they are
equal as soon as they have the same members.

## Main results

* `OrderedSet.toList_insertAll`: the members after several insertions.
* `OrderedMap.keys_insertAll`, `OrderedMap.get?_insertAll`: the keys and the
  values after several insertions.
* `OrderedMap.entries_insertAll_of_nodup`: insertions under distinct new keys
  are listed as they came.
* `OrderedMap.valueSum_ofList_le`: the values of a map sum up to at most the
  values that were given.
* `NameSet.mem_ofList`, `NameSet.eq_of_mem_iff`: members decide a sorted set.
-/

namespace JavaSurvey.Data

/-! ## Look-ups -/

/-- Among entries with different keys each is found by its key. -/
theorem lookup_of_mem {α β : Type} [DecidableEq α] {entries : List (α × β)} {key : α}
    {value : β} (hnodup : (entries.map Prod.fst).Nodup) (h : (key, value) ∈ entries) :
    entries.lookup key = some value := by
  obtain ⟨before, after, rfl⟩ := List.append_of_mem h
  refine List.lookup_eq_some_iff.2 ⟨before, after, rfl, ?_⟩
  intro entry hentry
  rw [List.map_append, List.nodup_append] at hnodup
  have hne := hnodup.2.2 entry.1 (List.mem_map_of_mem hentry) key
    (List.mem_map_of_mem List.mem_cons_self)
  simpa using Ne.symm hne

/-- The order of entries with different keys does not matter. -/
theorem lookup_eq_of_perm {α β : Type} [DecidableEq α] {entries others : List (α × β)}
    (hnodup : (entries.map Prod.fst).Nodup) (h : others.Perm entries) (key : α) :
    others.lookup key = entries.lookup key := by
  have hothers : (others.map Prod.fst).Nodup := (h.map Prod.fst).nodup_iff.2 hnodup
  cases hlookup : entries.lookup key with
  | some value =>
      obtain ⟨before, after, rfl, -⟩ := List.lookup_eq_some_iff.1 hlookup
      exact lookup_of_mem hothers (h.mem_iff.2 (by simp))
  | none =>
      rw [List.lookup_eq_none_iff] at hlookup ⊢
      exact fun entry hentry => hlookup entry (h.mem_iff.1 hentry)

/-! ## First occurrences -/

section FirstOccurrences

variable {α : Type} [DecidableEq α]

/-- One more value at the end is kept exactly if it is new. -/
theorem eraseDups_concat (values : List α) (a : α) :
    (values ++ [a]).eraseDups =
      if a ∈ values then values.eraseDups else values.eraseDups ++ [a] := by
  rw [List.eraseDups_append]
  by_cases h : a ∈ values
  · simp [List.removeAll, h]
  · simp [List.removeAll, h, List.eraseDups_cons]

theorem nodup_eraseDups (values : List α) : values.eraseDups.Nodup := by
  induction values using List.reverseRecOn with
  | nil => exact List.nodup_nil
  | append_singleton values a ih =>
      rw [eraseDups_concat]
      split
      next => exact ih
      next hnew =>
        rw [List.nodup_append]
        refine ⟨ih, by simp, ?_⟩
        intro x hx y hy hxy
        rw [List.mem_singleton] at hy
        rw [List.mem_eraseDups] at hx
        exact hnew (hy ▸ hxy ▸ hx)

/-- A list without duplicates is left alone. -/
theorem eraseDups_of_nodup {values : List α} (h : values.Nodup) :
    values.eraseDups = values := by
  induction values using List.reverseRecOn with
  | nil => rfl
  | append_singleton values a ih =>
      rw [List.nodup_append] at h
      obtain ⟨hvalues, _, hdisjoint⟩ := h
      have hnew : a ∉ values := fun hmem =>
        hdisjoint a hmem a (List.mem_singleton.2 rfl) rfl
      rw [eraseDups_concat, if_neg hnew, ih hvalues]

theorem length_eraseDups_le (values : List α) :
    values.eraseDups.length ≤ values.length := by
  induction values using List.reverseRecOn with
  | nil => exact Nat.le_refl 0
  | append_singleton values a ih =>
      rw [eraseDups_concat]
      split
      next =>
        rw [List.length_append, List.length_singleton]
        omega
      next =>
        rw [List.length_append, List.length_append]
        exact Nat.add_le_add_right ih _

/-- First occurrences are as many as the values exactly if no value comes
twice. -/
theorem length_eraseDups_eq_iff (values : List α) :
    values.eraseDups.length = values.length ↔ values.Nodup := by
  constructor
  · intro hlength
    induction values using List.reverseRecOn with
    | nil => exact List.nodup_nil
    | append_singleton values a ih =>
        have hle := length_eraseDups_le values
        rw [eraseDups_concat, List.length_append, List.length_singleton] at hlength
        split at hlength
        next => omega
        next hnew =>
          rw [List.length_append, List.length_singleton] at hlength
          have hvalues := ih (by omega)
          rw [← List.concat_eq_append, List.nodup_concat]
          exact ⟨hnew, hvalues⟩
  · intro hnodup
    rw [eraseDups_of_nodup hnodup]

/-- Duplicates may be erased early: what follows sees the same members. -/
theorem eraseDups_eraseDups_append (first second : List α) :
    (first.eraseDups ++ second).eraseDups = (first ++ second).eraseDups := by
  have hmember : second.removeAll first.eraseDups = second.removeAll first := by
    apply List.filter_congr
    intro a _
    simp [List.mem_eraseDups]
  rw [List.eraseDups_append, List.eraseDups_append, hmember,
    eraseDups_of_nodup (nodup_eraseDups first)]

/-- Values that occurred before change nothing, wherever they come again. -/
theorem eraseDups_append_of_subset {before again : List α} (after : List α)
    (h : again ⊆ before) :
    (before ++ again ++ after).eraseDups = (before ++ after).eraseDups := by
  have hagain : again.removeAll before = [] := by
    rw [List.removeAll, List.filter_eq_nil_iff]
    intro a ha
    simp [h ha]
  have hbefore : (before ++ again).eraseDups = before.eraseDups := by
    rw [List.eraseDups_append, hagain, List.eraseDups_nil, List.append_nil]
  rw [← eraseDups_eraseDups_append, hbefore, eraseDups_eraseDups_append]

/-- First occurrences go with a function that tells all values apart. -/
theorem eraseDups_map {β : Type} [DecidableEq β] {f : α → β}
    (hf : Function.Injective f) (values : List α) :
    (values.map f).eraseDups = values.eraseDups.map f := by
  induction values using List.reverseRecOn with
  | nil => rfl
  | append_singleton values a ih =>
      have hmem : f a ∈ values.map f ↔ a ∈ values := List.mem_map_of_injective hf
      rw [List.map_append, List.map_singleton, eraseDups_concat,
        eraseDups_concat, ih]
      by_cases h : a ∈ values
      · rw [if_pos h, if_pos (hmem.2 h)]
      · rw [if_neg h, if_neg (mt hmem.1 h), List.map_append, List.map_singleton]

/-- First occurrences depend on the order of a list, their multiset only on its
members. -/
theorem perm_eraseDups {first second : List α}
    (h : ∀ a, a ∈ first ↔ a ∈ second) :
    first.eraseDups.Perm second.eraseDups := by
  rw [List.perm_ext_iff_of_nodup (nodup_eraseDups first)
    (nodup_eraseDups second)]
  intro a
  rw [List.mem_eraseDups, List.mem_eraseDups]
  exact h a

/-- First occurrences are listed in the order in which they occur. -/
theorem pairwise_idxOf_eraseDups (values : List α) :
    values.eraseDups.Pairwise fun a b => values.idxOf a < values.idxOf b := by
  induction values using List.reverseRecOn with
  | nil => exact List.Pairwise.nil
  | append_singleton values a ih =>
      have hold : values.eraseDups.Pairwise fun x y =>
          (values ++ [a]).idxOf x < (values ++ [a]).idxOf y := by
        refine ih.imp_of_mem ?_
        intro x y hx hy hlt
        rw [List.mem_eraseDups] at hx hy
        rwa [List.idxOf_append_of_mem hx, List.idxOf_append_of_mem hy]
      rw [eraseDups_concat]
      split
      next => exact hold
      next hnew =>
        rw [List.pairwise_append]
        refine ⟨hold, List.pairwise_singleton _ _, ?_⟩
        intro x hx y hy
        rw [List.mem_eraseDups] at hx
        rw [List.mem_singleton] at hy
        subst hy
        rw [List.idxOf_append_of_mem hx, List.idxOf_append_of_notMem hnew]
        exact Nat.lt_of_lt_of_le (List.idxOf_lt_length_of_mem hx)
          (Nat.le_add_right _ _)

end FirstOccurrences

/-! ## Ordered sets -/

namespace OrderedSet

variable {α : Type} [DecidableEq α]

theorem toList_insert (set : OrderedSet α) (a : α) :
    (set.insert a).toList = (set.toList ++ [a]).eraseDups := by
  rw [eraseDups_concat, eraseDups_of_nodup set.nodup, insert]
  split
  next => rfl
  next => rfl

/-- A set lists the first occurrences of all that was inserted. -/
theorem toList_insertAll (set : OrderedSet α) (values : List α) :
    (values.foldl insert set).toList = (set.toList ++ values).eraseDups := by
  induction values generalizing set with
  | nil => rw [List.foldl_nil, List.append_nil, eraseDups_of_nodup set.nodup]
  | cons a values ih =>
      rw [List.foldl_cons, ih, toList_insert, eraseDups_eraseDups_append,
        List.append_assoc, List.singleton_append]

theorem toList_ofList (values : List α) :
    (ofList values).toList = values.eraseDups := by
  rw [ofList, toList_insertAll]
  rfl

end OrderedSet

/-! ## Ordered maps -/

namespace OrderedMap

variable {α β : Type}

/-- The keys, in their order. -/
def keys (map : OrderedMap α β) : List α :=
  map.entries.map Prod.fst

theorem nodup_keys (map : OrderedMap α β) : map.keys.Nodup := map.nodup

variable [DecidableEq α]

/-- The map after giving values to keys, one after the other. -/
def insertAll (map : OrderedMap α β) (entries : List (α × β)) :
    OrderedMap α β :=
  entries.foldl (fun map entry => map.insert entry.1 entry.2) map

theorem insertAll_concat (map : OrderedMap α β) (entries : List (α × β))
    (entry : α × β) :
    map.insertAll (entries ++ [entry]) =
      (map.insertAll entries).insert entry.1 entry.2 := by
  simp only [insertAll, List.foldl_append, List.foldl_cons, List.foldl_nil]

theorem entries_insert_of_mem {map : OrderedMap α β} {key : α} (value : β)
    (h : key ∈ map.keys) :
    (map.insert key value).entries = replaceValue key value map.entries := by
  unfold keys at h
  rw [insert, dif_pos h]

theorem entries_insert_of_not_mem {map : OrderedMap α β} {key : α} (value : β)
    (h : key ∉ map.keys) :
    (map.insert key value).entries = map.entries ++ [(key, value)] := by
  unfold keys at h
  rw [insert, dif_neg h]

theorem keys_insert (map : OrderedMap α β) (key : α) (value : β) :
    (map.insert key value).keys = (map.keys ++ [key]).eraseDups := by
  rw [eraseDups_concat, eraseDups_of_nodup map.nodup_keys]
  split
  next hold =>
    rw [keys, entries_insert_of_mem value hold, keys_replaceValue, keys]
  next hnew =>
    rw [keys, entries_insert_of_not_mem value hnew, List.map_append,
      List.map_singleton, keys]

/-- Keys are listed in the order in which they first came. -/
theorem keys_insertAll (map : OrderedMap α β) (entries : List (α × β)) :
    (map.insertAll entries).keys =
      (map.keys ++ entries.map Prod.fst).eraseDups := by
  induction entries using List.reverseRecOn with
  | nil =>
      rw [List.map_nil, List.append_nil, eraseDups_of_nodup map.nodup_keys]
      rfl
  | append_singleton entries entry ih =>
      rw [insertAll_concat, keys_insert, ih, eraseDups_eraseDups_append,
        List.map_append, List.append_assoc, List.map_singleton]

/-- Replacing a value does not change which entry is found under a key, since it
keeps the keys. -/
private theorem find?_replaceValue (key wanted : α) (value : β)
    (entries : List (α × β)) :
    (replaceValue key value entries).find?
        (fun entry => decide (entry.1 = wanted)) =
      (entries.find? fun entry => decide (entry.1 = wanted)).map fun entry =>
        if entry.1 = key then (entry.1, value) else entry := by
  rw [replaceValue, List.find?_map]
  congr 2
  funext entry
  simp only [Function.comp]
  split <;> rfl

/-- A key is found exactly if it is listed. -/
theorem get?_eq_none_iff (map : OrderedMap α β) (key : α) :
    map.get? key = none ↔ key ∉ map.keys := by
  rw [get?, Option.map_eq_none_iff, List.find?_eq_none, keys]
  simp only [decide_eq_true_eq, List.mem_map, not_exists, not_and]

theorem get?_insert (map : OrderedMap α β) (key wanted : α) (value : β) :
    (map.insert key value).get? wanted =
      if wanted = key then some value else map.get? wanted := by
  by_cases hold : key ∈ map.keys
  · rw [get?, entries_insert_of_mem value hold, find?_replaceValue,
      Option.map_map]
    cases hfound : map.entries.find? fun entry => decide (entry.1 = wanted) with
    | none =>
        have hwanted : map.get? wanted = none := by
          rw [get?, hfound]
          rfl
        have hne : wanted ≠ key := fun heq =>
          (get?_eq_none_iff map wanted).1 hwanted (heq ▸ hold)
        rw [if_neg hne, hwanted]
        rfl
    | some entry =>
        have hkey : entry.1 = wanted := by simpa using List.find?_some hfound
        have hwanted : map.get? wanted = some entry.2 := by
          rw [get?, hfound]
          rfl
        rw [hwanted, ← hkey, Option.map_some, Function.comp]
        split <;> rfl
  · rw [get?, entries_insert_of_not_mem value hold, List.find?_append]
    by_cases heq : wanted = key
    · have habsent : map.entries.find?
          (fun entry => decide (entry.1 = wanted)) = none := by
        have hnone := (get?_eq_none_iff map wanted).2 (heq ▸ hold)
        rwa [get?, Option.map_eq_none_iff] at hnone
      rw [habsent, if_pos heq]
      simp [heq]
    · have hother : [(key, value)].find?
          (fun entry => decide (entry.1 = wanted)) = none := by
        simp [Ne.symm heq]
      rw [hother, Option.or_none, if_neg heq, get?]

/-- The value of a key is the last one given to it. -/
theorem get?_insertAll (map : OrderedMap α β) (entries : List (α × β))
    (wanted : α) :
    (map.insertAll entries).get? wanted =
      ((entries.filter fun entry => entry.1 == wanted).getLast?.map Prod.snd).or
        (map.get? wanted) := by
  induction entries using List.reverseRecOn with
  | nil => rfl
  | append_singleton entries entry ih =>
      rw [insertAll_concat, get?_insert, ih, List.filter_append]
      by_cases heq : wanted = entry.1
      · simp [heq]
      · simp [heq, Ne.symm heq]

/-- Entries under distinct new keys are listed as they came. -/
theorem entries_insertAll_of_nodup (map : OrderedMap α β)
    (entries : List (α × β)) (h : (map.keys ++ entries.map Prod.fst).Nodup) :
    (map.insertAll entries).entries = map.entries ++ entries := by
  induction entries using List.reverseRecOn with
  | nil => exact (List.append_nil _).symm
  | append_singleton entries entry ih =>
      rw [List.map_append, ← List.append_assoc, List.map_singleton,
        List.nodup_append] at h
      obtain ⟨hbefore, _, hdisjoint⟩ := h
      have hkeys : (map.insertAll entries).keys =
          map.keys ++ entries.map Prod.fst := by
        rw [keys_insertAll, eraseDups_of_nodup hbefore]
      have hnew : entry.1 ∉ (map.insertAll entries).keys := by
        rw [hkeys]
        intro hmem
        exact hdisjoint entry.1 hmem entry.1 (List.mem_singleton.2 rfl) rfl
      rw [insertAll_concat, entries_insert_of_not_mem entry.2 hnew, ih hbefore,
        List.append_assoc]

/-! ### Sums of values -/

/-- The sum of the values. -/
def valueSum (map : OrderedMap α Nat) : Nat :=
  (map.entries.map Prod.snd).sum

theorem replaceValue_of_not_mem {key : α} (value : β) {entries : List (α × β)}
    (h : key ∉ entries.map Prod.fst) :
    replaceValue key value entries = entries := by
  have hsame : ∀ entry ∈ entries,
      (if entry.1 = key then (entry.1, value) else entry) = id entry := by
    intro entry hentry
    rw [if_neg]
    · rfl
    · rintro rfl
      exact h (List.mem_map_of_mem hentry)
  rw [replaceValue, List.map_congr_left hsame, List.map_id]

/-- A new value takes the place of at most one old one. -/
theorem sum_replaceValue_le (key : α) (value : Nat) {entries : List (α × Nat)}
    (h : (entries.map Prod.fst).Nodup) :
    ((replaceValue key value entries).map Prod.snd).sum ≤
      (entries.map Prod.snd).sum + value := by
  induction entries with
  | nil => exact Nat.zero_le _
  | cons entry entries ih =>
      rw [List.map_cons, List.nodup_cons] at h
      obtain ⟨hnew, hentries⟩ := h
      have hcons : replaceValue key value (entry :: entries) =
          (if entry.1 = key then (entry.1, value) else entry) ::
            replaceValue key value entries := rfl
      rw [hcons]
      simp only [List.map_cons, List.sum_cons]
      split
      next heq =>
        -- The key stands here and nowhere behind.
        rw [replaceValue_of_not_mem value (heq ▸ hnew)]
        omega
      next =>
        have hrest := ih hentries
        omega

theorem valueSum_insert_le (map : OrderedMap α Nat) (key : α) (value : Nat) :
    (map.insert key value).valueSum ≤ map.valueSum + value := by
  by_cases hold : key ∈ map.keys
  · rw [valueSum, entries_insert_of_mem value hold]
    exact sum_replaceValue_le key value map.nodup
  · rw [valueSum, entries_insert_of_not_mem value hold, List.map_append,
      List.sum_append, List.map_singleton, List.sum_singleton, valueSum]

/-- Values that are replaced later are lost, so the sum of the map is at most
the sum of all values that were given. -/
theorem valueSum_ofList_le (entries : List (α × Nat)) :
    (ofList entries).valueSum ≤ (entries.map Prod.snd).sum := by
  induction entries using List.reverseRecOn with
  | nil => exact Nat.le_refl 0
  | append_singleton entries entry ih =>
      have hstep := valueSum_insert_le (ofList entries) entry.1 entry.2
      have hconcat : ofList (entries ++ [entry]) =
          (ofList entries).insert entry.1 entry.2 :=
        insertAll_concat .empty entries entry
      rw [hconcat, List.map_append, List.sum_append, List.map_singleton,
        List.sum_singleton]
      omega

end OrderedMap

/-! ## Sorted sets -/

namespace NameSet

theorem mem_insertAll {set : NameSet} {names : List String} {name : String} :
    name ∈ (set.insertAll names).toList ↔ name ∈ set.toList ∨ name ∈ names := by
  induction names generalizing set with
  | nil => simp [insertAll]
  | cons first rest ih =>
      have hinsert : name ∈ (set.insert first).toList ↔
          name = first ∨ name ∈ set.toList := mem_insertSorted
      rw [insertAll, List.foldl_cons, ← insertAll, ih, hinsert, List.mem_cons,
        or_assoc, or_left_comm]

theorem mem_ofList {names : List String} {name : String} :
    name ∈ (ofList names).toList ↔ name ∈ names := by
  rw [ofList, mem_insertAll]
  simp [empty]

/-- Sorted sets with the same members are equal. -/
theorem eq_of_mem_iff {first second : NameSet}
    (h : ∀ name, name ∈ first.toList ↔ name ∈ second.toList) :
    first = second := by
  have hlists : first.toList = second.toList :=
    first.sorted.eq_of_mem_iff second.sorted h
  cases first
  cases second
  simp only [mk.injEq]
  exact hlists

end NameSet

end JavaSurvey.Data
