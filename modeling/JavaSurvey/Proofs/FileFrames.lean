import JavaSurvey.Proofs.Resolution

/-!
# The frame of a store

Directories and links are the frame of a store, in which files hang. No way
passes a file, so in stores with the same frame a way leads to the same place.
A file that is written is put at the end of a way and leaves the frame as it is,
so the same path leads to it again.

## Main results

* `Store.Reaches.of_sameFrame`: ways depend on the frame only.
* `Entry.sameFrame_set`, `Entry.get?_set`: a file put into a directory.
* `Store.read_of_write`: what was written is read back.
* `Store.keepsDirectories_createDirectories`: creating directories loses none.
-/

namespace JavaSurvey.Files

/-- The second tree has the directories and links of the first one. Trees are
given by what stands at their places. -/
structure SameFrame (old new : List String → Option Entry) : Prop where
  link_iff : ∀ place target,
    new place = some (.link target) ↔ old place = some (.link target)
  directory_iff : ∀ place,
    (∃ children, new place = some (.directory children)) ↔
      ∃ children, old place = some (.directory children)

/-- At a place there is nothing or a file. -/
def IsOpen (found : Option Entry) : Prop :=
  found = none ∨ ∃ content, found = some (.file content)

theorem isOpen_iff {found : Option Entry} :
    IsOpen found ↔ (∀ target, found ≠ some (.link target)) ∧
      ∀ children, found ≠ some (.directory children) := by
  unfold IsOpen
  cases found with
  | none => simp
  | some entry => cases entry <;> simp

/-- Where no directory or link was, there is none. -/
theorem SameFrame.isOpen {old new : List String → Option Entry} (h : SameFrame old new)
    {place : List String} (hold : IsOpen (old place)) : IsOpen (new place) := by
  rw [isOpen_iff] at hold ⊢
  refine ⟨fun target hnew => hold.1 target ((h.link_iff place target).1 hnew), ?_⟩
  intro children hnew
  obtain ⟨children', hdirectory⟩ := (h.directory_iff place).1 ⟨children, hnew⟩
  exact hold.2 children' hdirectory

/-- Trees without directories and links have the same frame. -/
theorem sameFrame_of_isOpen {old new : List String → Option Entry}
    (hold : ∀ place, IsOpen (old place)) (hnew : ∀ place, IsOpen (new place)) :
    SameFrame old new := by
  simp only [isOpen_iff] at hold hnew
  constructor
  · intro place target
    simp [(hold place).1, (hnew place).1]
  · intro place
    simp [(hold place).2, (hnew place).2]

namespace Entry

/-! ## A file in a directory -/

variable {children : List (String × Entry)} {name : String} {new : Entry}

theorem child?_setChild (name other : String) (new : Entry)
    (children : List (String × Entry)) :
    child? (setChild name new children) other =
      if other = name then some new else child? children other := by
  unfold child?
  induction children with
  | nil =>
      rw [setChild, List.lookup_cons, List.lookup_nil]
      by_cases hother : other = name
      · simp [hother]
      · simp [hother, beq_false_of_ne hother]
  | cons child children ih =>
      rw [setChild]
      by_cases hchild : child.1 = name
      · rw [if_pos (beq_iff_eq.2 hchild), List.lookup_cons, List.lookup_cons, hchild]
        by_cases hother : other = name
        · simp [hother]
        · simp [hother, beq_false_of_ne hother]
      · rw [if_neg (by simpa using hchild), List.lookup_cons, List.lookup_cons, ih]
        by_cases hother : other = child.1
        · simp [hother, hchild]
        · rw [beq_false_of_ne hother]

theorem isOpen_get?_file (content : List UInt8) (place : List String) :
    IsOpen ((file content).get? place) := by
  cases place with
  | nil => exact Or.inr ⟨content, get?_nil _⟩
  | cons name rest => exact Or.inl rfl

theorem get?_setChild_cons (children : List (String × Entry)) (name : String) (new : Entry)
    (other : String) (below : List String) :
    (directory (setChild name new children)).get? (other :: below) =
      if other = name then new.get? below else (directory children).get? (other :: below) := by
  rw [get?_directory_cons, get?_directory_cons, child?_setChild]
  split <;> rfl

/-- A child in place of one with the same frame. -/
theorem sameFrame_setChild
    (h : SameFrame (fun below => (child? children name).bind fun child => child.get? below)
      new.get?) :
    SameFrame (directory children).get? (directory (setChild name new children)).get? := by
  constructor
  · intro place target
    cases place with
    | nil => simp [get?_nil]
    | cons other below =>
        rw [get?_setChild_cons]
        split
        next heq =>
          rw [heq, get?_directory_cons]
          exact h.link_iff below target
        next => rfl
  · intro place
    cases place with
    | nil => simp [get?_nil]
    | cons other below =>
        rw [get?_setChild_cons]
        split
        next heq =>
          rw [heq, get?_directory_cons]
          exact h.directory_iff below
        next => rfl

theorem set_directory_cons {rest : List String} (hrest : rest ≠ []) {child : Entry}
    (hchild : child? children name = some child) (new : Entry) :
    set new (name :: rest) (directory children) =
      directory (setChild name (set new rest child) children) := by
  rw [set, hchild]
  exact hrest

section Set

variable {entry : Entry} {parent : List String}
  (hparent : entry.get? parent = some (directory children))

include hparent

theorem get?_set (name : String) (new : Entry) :
    (set new (parent ++ [name]) entry).get? (parent ++ [name]) = some new := by
  induction parent generalizing entry with
  | nil =>
      cases (get?_nil entry).symm.trans hparent
      rw [List.nil_append, set, get?_directory_cons, child?_setChild, if_pos rfl]
      exact get?_nil new
  | cons first parent ih =>
      obtain ⟨above, child, rfl, hchild, hbelow⟩ := exists_directory_of_get?_cons hparent
      rw [List.cons_append, set_directory_cons (by simp) hchild, get?_directory_cons,
        child?_setChild, if_pos rfl]
      exact ih hbelow

/-- A file put into a directory, in place of nothing or of a file, keeps the
frame. -/
theorem sameFrame_set (hplace : IsOpen (entry.get? (parent ++ [name])))
    (content : List UInt8) :
    SameFrame entry.get? (set (file content) (parent ++ [name]) entry).get? := by
  induction parent generalizing entry with
  | nil =>
      cases (get?_nil entry).symm.trans hparent
      rw [List.nil_append, get?_directory_cons] at hplace
      rw [List.nil_append, set]
      refine sameFrame_setChild (sameFrame_of_isOpen ?_ (isOpen_get?_file content))
      intro below
      cases hchild : child? children name with
      | none => exact Or.inl rfl
      | some child =>
          rw [hchild, Option.bind_some, get?_nil] at hplace
          obtain hnone | ⟨old, hfile⟩ := hplace
          · cases hnone
          · cases hfile
            exact isOpen_get?_file old below
  | cons first parent ih =>
      obtain ⟨above, child, rfl, hchild, hbelow⟩ := exists_directory_of_get?_cons hparent
      rw [List.cons_append, get?_directory_cons, hchild] at hplace
      rw [List.cons_append, set_directory_cons (by simp) hchild]
      refine sameFrame_setChild ?_
      rw [hchild]
      exact ih hbelow hplace

end Set

/-- A child keeps the directories at their places if it has those of the child that
it replaces. -/
theorem exists_directory_setChild {below : List (String × Entry)} {other : List String}
    (hother : (directory children).get? other = some (directory below))
    (hnew : ∀ child rest, child? children name = some child →
      child.get? rest = some (directory below) →
        ∃ below', new.get? rest = some (directory below')) :
    ∃ below', (directory (setChild name new children)).get? other =
      some (directory below') := by
  cases other with
  | nil => exact ⟨_, get?_nil _⟩
  | cons first rest =>
      rw [get?_setChild_cons]
      split
      next hfirst =>
        rw [hfirst, get?_directory_cons] at hother
        obtain ⟨child, hchild, hrest⟩ := Option.bind_eq_some_iff.1 hother
        exact hnew child rest hchild hrest
      next => exact ⟨below, hother⟩

/-- Something put where nothing was leaves the directories where they are. -/
theorem exists_directory_set {entry : Entry} {place other : List String}
    {below : List (String × Entry)} (hfree : entry.get? place = none)
    (hother : entry.get? other = some (directory below)) (new : Entry) :
    ∃ below', (set new place entry).get? other = some (directory below') := by
  induction place generalizing entry other with
  | nil =>
      rw [get?_nil] at hfree
      cases hfree
  | cons name rest ih =>
      cases entry with
      | file content =>
          have hsame : set new (name :: rest) (file content) = file content := by
            cases rest <;> rfl
          rw [hsame]
          exact ⟨below, hother⟩
      | link target =>
          have hsame : set new (name :: rest) (link target) = link target := by
            cases rest <;> rfl
          rw [hsame]
          exact ⟨below, hother⟩
      | directory children =>
          rw [get?_directory_cons] at hfree
          by_cases hrest : rest = []
          · subst hrest
            refine exists_directory_setChild hother fun child _ hchild _ => ?_
            rw [hchild, Option.bind_some, get?_nil] at hfree
            cases hfree
          · cases hchild : child? children name with
            | none =>
                rw [set, hchild]
                · exact ⟨below, hother⟩
                · exact hrest
            | some child =>
                rw [hchild, Option.bind_some] at hfree
                rw [set_directory_cons hrest hchild]
                refine exists_directory_setChild hother fun found _ hfound hdirectory => ?_
                cases hchild.symm.trans hfound
                exact ih hfree hdirectory

end Entry

namespace Store

variable {old new store : Store} {follow : Bool} {links : Nat}
  {directory place way : List String}

/-! ## Ways in the same frame -/

section Frame

variable (h : SameFrame old.root.get? new.root.get?)

include h

/-- Steps do the same, but a last one may be refused for another reason. -/
theorem step_of_sameFrame (directory : List String) (name : String) :
    new.step directory name = old.step directory name ∨
      ∃ place error error', old.step directory name = .last place error ∧
        new.step directory name = .last place error' := by
  unfold step
  split_ifs
  · exact Or.inl rfl
  · exact Or.inl rfl
  · exact Or.inl rfl
  · have hopen := @SameFrame.isOpen _ _ h (directory ++ [name])
    cases hold : old.root.get? (directory ++ [name]) with
    | none =>
        refine Or.inr ⟨directory ++ [name], .notFound, ?_⟩
        rcases hopen (Or.inl hold) with hnew | ⟨_, hnew⟩
        · exact ⟨.notFound, rfl, by rw [hnew]⟩
        · exact ⟨.notADirectory, rfl, by rw [hnew]⟩
    | some found =>
        cases found with
        | file content =>
            refine Or.inr ⟨directory ++ [name], .notADirectory, ?_⟩
            rcases hopen (Or.inr ⟨content, hold⟩) with hnew | ⟨_, hnew⟩
            · exact ⟨.notFound, rfl, by rw [hnew]⟩
            · exact ⟨.notADirectory, rfl, by rw [hnew]⟩
        | link target =>
            rw [(h.link_iff _ _).2 hold]
            exact Or.inl rfl
        | directory children =>
            obtain ⟨children', hnew⟩ := (h.directory_iff _).2 ⟨children, hold⟩
            rw [hnew]
            exact Or.inl rfl

/-- A walk that does not fail goes as before. -/
theorem advance_of_sameFrame
    (hwalk : ∀ error, old.advance follow directory way ≠ .failed error) :
    new.advance follow directory way = old.advance follow directory way := by
  induction way generalizing directory with
  | nil => rfl
  | cons name way ih =>
      rw [advance_cons] at hwalk ⊢
      rw [advance_cons]
      rcases step_of_sameFrame h directory name with
        hstep | ⟨place, error, error', hold, hnew⟩
      · rw [hstep]
        cases hold : old.step directory name with
        | on next =>
            rw [hold] at hwalk
            exact ih hwalk
        | link place target => rfl
        | last place error => rfl
        | refused error => rfl
      -- A last step fails or arrives as there are more steps or not; only the
      -- reason of the failure can have changed.
      · rw [hold] at hwalk ⊢
        rw [hnew]
        dsimp only at hwalk ⊢
        split_ifs at hwalk ⊢
        · rfl
        · exact absurd rfl (hwalk error)

theorem Reaches.of_sameFrame (hreaches : Reaches old follow links directory way place) :
    Reaches new follow links directory way place := by
  induction hreaches with
  | arrived hwalk =>
      refine .arrived ?_
      rw [advance_of_sameFrame h (by simp [hwalk])]
      exact hwalk
  | redirected hwalk hne _ ih =>
      refine .redirected ?_ hne ih
      rw [advance_of_sameFrame h (by simp [hwalk])]
      exact hwalk

end Frame

/-! ## Ends of ways -/

/-- There is a directory at a place. -/
def HasDirectory (store : Store) (place : List String) : Prop :=
  ∃ children, store.root.get? place = some (.directory children)

/-- In a directory, there is nothing or a file at a place. -/
def HasRoom (store : Store) (place : List String) : Prop :=
  ∃ parent name, place = parent ++ [name] ∧ store.HasDirectory parent ∧
    IsOpen (store.root.get? place)

theorem HasDirectory.of_append {first second : List String}
    (h : store.HasDirectory (first ++ second)) : store.HasDirectory first := by
  obtain ⟨children, hchildren⟩ := h
  rw [Entry.get?_append] at hchildren
  obtain ⟨found, hfound, hbelow⟩ := Option.bind_eq_some_iff.1 hchildren
  obtain ⟨children', rfl⟩ := Entry.exists_eq_directory hbelow
  exact ⟨children', hfound⟩

theorem HasDirectory.dropLast (h : store.HasDirectory directory) :
    store.HasDirectory directory.dropLast := by
  obtain ⟨last, hlast⟩ := List.dropLast_prefix directory
  rw [← hlast] at h
  exact h.of_append

theorem HasDirectory.origin (h : store.HasDirectory directory) (target : String) :
    store.HasDirectory (Store.origin directory target) := by
  rw [Store.origin]
  split
  · exact @HasDirectory.of_append store [] directory h
  · exact h

/-- Steps from a directory lead to directories, and last ones to places in them. -/
theorem HasDirectory.step (h : store.HasDirectory directory) (name : String) :
    (∀ next, store.step directory name = .on next → store.HasDirectory next) ∧
      ∀ place error, store.step directory name = .last place error →
        store.HasRoom place := by
  unfold Store.step
  split_ifs
  · simpa using h
  · simpa using h.dropLast
  · simp
  · cases hplace : store.root.get? (directory ++ [name]) with
    | none =>
        refine ⟨by simp, ?_⟩
        rintro _ _ ⟨⟩
        exact ⟨directory, name, rfl, h, Or.inl hplace⟩
    | some found =>
        cases found with
        | file content =>
            refine ⟨by simp, ?_⟩
            rintro _ _ ⟨⟩
            exact ⟨directory, name, rfl, h, Or.inr ⟨content, hplace⟩⟩
        | link target => simp
        | directory children =>
            refine ⟨?_, by simp⟩
            rintro _ ⟨⟩
            exact ⟨children, hplace⟩

/-- A walk from a directory ends in a directory or at a place in one, and meets
links in directories. -/
theorem HasDirectory.advance (h : store.HasDirectory directory) :
    (∀ place, store.advance true directory way = .arrived place →
      store.HasDirectory place ∨ store.HasRoom place) ∧
    ∀ next target rest, store.advance true directory way = .redirected next target rest →
      store.HasDirectory next := by
  induction way generalizing directory with
  | nil =>
      rw [Store.advance]
      refine ⟨?_, by simp⟩
      rintro _ ⟨⟩
      exact Or.inl h
  | cons name way ih =>
      rw [advance_cons]
      cases hstep : store.step directory name with
      | on next => exact ih ((h.step name).1 next hstep)
      | link stop target =>
          simp only [Bool.not_true, Bool.and_false, Bool.false_eq_true, if_false]
          refine ⟨by simp, ?_⟩
          rintro _ _ _ ⟨⟩
          exact h
      | last stop error =>
          dsimp only
          split
          next =>
            refine ⟨?_, by simp⟩
            rintro _ ⟨⟩
            exact Or.inr ((h.step name).2 stop error hstep)
          next => exact ⟨by simp, by simp⟩
      | refused error => exact ⟨by simp, by simp⟩

/-- A way from a directory ends in a directory or at a place in one. -/
theorem Reaches.hasDirectory_or_hasRoom (hdirectory : store.HasDirectory directory)
    (h : Reaches store true links directory way place) :
    store.HasDirectory place ∨ store.HasRoom place := by
  induction h with
  | arrived hwalk => exact hdirectory.advance.1 _ hwalk
  | redirected hwalk _ _ ih =>
      have hnext := hdirectory.advance.2 _ _ _ hwalk
      exact ih (hnext.origin _)

/-! ## Writing and reading -/

section Writing

variable {next : Store} {path : String} {content : List UInt8}

/-- A file is put at the end of a way that is no directory. -/
theorem exists_place_of_write (h : store.write path content = .ok next) :
    checkPath path = .ok () ∧ endsInSlash path = false ∧
      ∃ place, Reaches store true maxLinks (origin store.current path) (steps path) place ∧
        ¬ store.HasDirectory place ∧
        next = { store with root := Entry.set (.file content) place store.root } := by
  simp only [write, bind, Except.bind] at h
  cases hcheck : checkPath path with
  | error error =>
      rw [hcheck] at h
      cases h
  | ok =>
      rw [hcheck] at h
      dsimp only at h
      split at h
      next => split at h <;> cases h
      next =>
        split at h
        next => split at h <;> cases h
        next hslash =>
          split at h
          next => cases h
          next place hresolve =>
            refine ⟨rfl, by simpa using hslash, place, reaches_of_resolve hresolve, ?_⟩
            split at h
            next => cases h
            next hplace =>
              cases h
              refine ⟨?_, rfl⟩
              rintro ⟨children, hchildren⟩
              exact hplace children hchildren

/-- What is written to a path is read back from it, if there is a current
directory. -/
theorem read_of_write (hcurrent : store.HasDirectory store.current)
    (h : store.write path content = .ok next) : next.read path = .ok content := by
  obtain ⟨hcheck, hslash, place, hreaches, hnot, hnext⟩ := exists_place_of_write h
  obtain hdirectory | ⟨parent, name, rfl, ⟨children, hparent⟩, hopen⟩ :=
    hreaches.hasDirectory_or_hasRoom (hcurrent.origin path)
  · exact absurd hdirectory hnot
  have hroot : next.root = Entry.set (.file content) (parent ++ [name]) store.root := by
    rw [hnext]
  have hsame : next.current = store.current := by rw [hnext]
  have hframe : SameFrame store.root.get? next.root.get? := by
    rw [hroot]
    exact Entry.sameFrame_set hparent hopen content
  have hplace : next.root.get? (parent ++ [name]) = some (.file content) := by
    rw [hroot]
    exact Entry.get?_set hparent name (.file content)
  have hway : steps path ++ remaining path [] = steps path := by
    rw [remaining, hslash, Bool.false_and, if_neg Bool.false_ne_true, List.append_nil]
  have hfind : next.find true path = .ok (parent ++ [name], .file content) := by
    refine find_eq_ok_iff.2 ⟨hcheck, ?_, hplace⟩
    rw [hway, hsame]
    exact hreaches.of_sameFrame hframe
  rw [read, hfind]
  rfl

end Writing

/-! ## Creating directories -/

/-- The second store has a directory wherever the first one has, and the same
current one. -/
structure KeepsDirectories (old new : Store) : Prop where
  current : new.current = old.current
  directory : ∀ place, old.HasDirectory place → new.HasDirectory place

theorem KeepsDirectories.refl (store : Store) : KeepsDirectories store store :=
  ⟨rfl, fun _ h => h⟩

theorem KeepsDirectories.trans {next : Store} (h : KeepsDirectories old new)
    (hnext : KeepsDirectories new next) : KeepsDirectories old next :=
  ⟨hnext.current.trans h.current, fun place hold => hnext.directory place (h.directory place hold)⟩

theorem keepsDirectories_of_create {path : String} {entry : Entry}
    (h : store.create path entry = .ok new) : KeepsDirectories store new := by
  simp only [create, bind, Except.bind] at h
  split at h
  next => cases h
  next =>
    split at h
    next => split at h <;> cases h
    next =>
      split at h
      next => cases h
      next parent _ =>
        split at h
        next => cases h
        next place _ =>
          split at h
          next => cases h
          next hfree =>
            cases h
            refine ⟨rfl, ?_⟩
            rintro other ⟨below, hbelow⟩
            exact Entry.exists_directory_set hfree hbelow entry

/-- Whether or not a whole path could be created, no directory is lost. -/
theorem keepsDirectories_createPath (store : Store) (way : List Component) :
    KeepsDirectories store (store.createPath way).1 := by
  induction way generalizing store with
  | nil => exact .refl store
  | cons last above ih =>
      rw [createPath]
      split
      next next hcreated => exact keepsDirectories_of_create hcreated
      next =>
        have habove := ih store
        split
        next next error hrest =>
          rw [hrest] at habove
          exact habove
        next next hrest =>
          rw [hrest] at habove
          split
          next new hcreated => exact habove.trans (keepsDirectories_of_create hcreated)
          next => exact habove
      next => exact .refl store

theorem keepsDirectories_createDirectories (store : Store) (path : String) :
    KeepsDirectories store (store.createDirectories path).1 := by
  rw [createDirectories]
  split
  · exact .refl store
  · exact keepsDirectories_createPath store _

end Store

end JavaSurvey.Files
