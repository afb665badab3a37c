import JavaSurvey.Proofs.FileTree

/-!
# Where paths lead

A way is taken in steps, and a step does one of four things (`Step`): it goes on
in a directory, it meets a link, it is good only as the last one, or it is
refused. Resolving a way is a chain of such walks, each from one link to the
next (`Reaches`). Steps do not depend on what follows them, so ways can be put
together: behind a way to a directory one goes on from that directory.

## Main results

* `Store.resolve_eq_ok_iff`: resolving as a chain of walks.
* `Store.Reaches.append`: a way through a directory.
* `Store.place_of_find_joinAll`: the path of a place below a directory leads
  there, if it leads anywhere.
* `Store.walk_of_find`: the files that a walk of a directory lists.
-/

namespace JavaSurvey.Files

namespace Store

variable {store : Store} {follow : Bool} {links : Nat}
  {directory place : List String}

/-! ## Steps -/

/-- What a step from a directory does. -/
inductive Step where
  /-- It leads to a directory. -/
  | on (next : List String)
  /-- It meets a link. -/
  | link (place : List String) (target : String)
  /-- It leads to a place from which no step leads on. -/
  | last (place : List String) (error : FileError)
  | refused (error : FileError)

/-- A step from a directory. -/
def step (store : Store) (directory : List String) (name : String) : Step :=
  if name = "." then .on directory
  else if name = ".." then .on directory.dropLast
  else if maxNameSize < name.utf8ByteSize then .refused .nameTooLong
  else
    match store.root.get? (directory ++ [name]) with
    | some (.directory _) => .on (directory ++ [name])
    | some (.file _) => .last (directory ++ [name]) .notADirectory
    | some (.link target) => .link (directory ++ [name]) target
    | none => .last (directory ++ [name]) .notFound

theorem step_current : store.step directory "." = .on directory := by
  rw [step, if_pos rfl]

/-- A step by a name that is not too long. -/
theorem step_of_isName {name : String} (h : IsName name)
    (hsize : ¬ maxNameSize < name.utf8ByteSize) :
    store.step directory name =
      match store.root.get? (directory ++ [name]) with
      | some (.directory _) => .on (directory ++ [name])
      | some (.file _) => .last (directory ++ [name]) .notADirectory
      | some (.link target) => .link (directory ++ [name]) target
      | none => .last (directory ++ [name]) .notFound := by
  rw [step, if_neg h.ne_current, if_neg h.ne_parent, if_neg hsize]

/-- Walking is taking steps. -/
theorem advance_cons (name : String) (rest : List String) :
    store.advance follow directory (name :: rest) =
      match store.step directory name with
      | .on next => store.advance follow next rest
      | .link place target =>
          if rest.isEmpty && !follow then .arrived place
          else .redirected directory target rest
      | .last place error =>
          if rest.isEmpty then .arrived place else .failed error
      | .refused error => .failed error := by
  rw [advance, step]
  simp only [beq_iff_eq]
  split
  next => rfl
  next =>
    split
    next => rfl
    next =>
      split
      next => rfl
      next =>
        cases hplace : store.root.get? (directory ++ [name]) with
        | none => rfl
        | some entry => cases entry <;> rfl

/-- Where a last step leads there is no directory. -/
theorem not_directory_of_step_last {name : String} {error : FileError}
    (h : store.step directory name = .last place error)
    (children : List (String × Entry)) :
    store.root.get? place ≠ some (.directory children) := by
  unfold step at h
  split_ifs at h
  split at h
  next => cases h
  next hfile =>
    cases h
    rw [hfile]
    simp
  next => cases h
  next hnone =>
    cases h
    rw [hnone]
    simp

theorem get?_of_step_link {name target : String}
    (h : store.step directory name = .link place target) :
    store.root.get? place = some (.link target) := by
  unfold step at h
  split_ifs at h
  split at h
  next => cases h
  next => cases h
  next hlink =>
    cases h
    exact hlink
  next => cases h

/-! ## Walks through a directory -/

/-- A way may end in a point, which does nothing but ask for a directory. -/
def IsPoint (tail : List String) : Prop :=
  tail = [] ∨ tail = ["."]

theorem advance_of_isPoint {tail : List String} (h : IsPoint tail) :
    store.advance follow directory tail = .arrived directory := by
  rcases h with rfl | rfl
  · rw [advance]
  · rw [advance_cons, step_current]
    rfl

section Through

variable {tail more : List String} {children : List (String × Entry)}

/-- Behind a walk to a directory one goes on from that directory. -/
theorem advance_append_of_arrived {way : List String} (htail : IsPoint tail)
    (h : store.advance true directory (way ++ tail) = .arrived place)
    (hplace : store.root.get? place = some (.directory children)) :
    store.advance follow directory (way ++ more) =
      store.advance follow place more := by
  induction way generalizing directory with
  | nil =>
      rw [List.nil_append, advance_of_isPoint htail] at h
      cases h
      rfl
  | cons name way ih =>
      rw [List.cons_append, advance_cons] at h ⊢
      cases hstep : store.step directory name with
      | on next =>
          rw [hstep] at h
          exact ih h
      | link place target =>
          rw [hstep] at h
          simp at h
      | last stop error =>
          rw [hstep] at h
          dsimp only at h
          split at h
          next =>
            cases h
            exact absurd hplace (not_directory_of_step_last hstep children)
          next => cases h
      | refused error =>
          rw [hstep] at h
          cases h

/-- Behind a walk that meets a link, what follows is left to the link. -/
theorem advance_append_of_redirected {way rest : List String} {target : String}
    (htail : IsPoint tail) (hmore : more ≠ [])
    (h : store.advance true directory (way ++ tail) =
      .redirected place target rest) :
    ∃ rest', rest = rest' ++ tail ∧
      store.advance follow directory (way ++ more) =
        .redirected place target (rest' ++ more) := by
  induction way generalizing directory with
  | nil =>
      rw [List.nil_append, advance_of_isPoint htail] at h
      cases h
  | cons name way ih =>
      rw [List.cons_append, advance_cons] at h ⊢
      cases hstep : store.step directory name with
      | on next =>
          rw [hstep] at h
          exact ih h
      | link place target =>
          rw [hstep] at h
          simp only [Bool.not_true, Bool.and_false, Bool.false_eq_true,
            if_false] at h
          cases h
          exact ⟨way, rfl, by simp [hmore]⟩
      | last stop error =>
          rw [hstep] at h
          dsimp only at h
          split at h
          next => cases h
          next => cases h
      | refused error =>
          rw [hstep] at h
          cases h

end Through

/-! ## Chains of walks -/

/-- What is left of a way behind a link: a target that ends in a slash asks for a
directory. -/
def remaining (target : String) (rest : List String) : List String :=
  if endsInSlash target && rest.isEmpty then ["."] else rest

/-- Where the target of a link starts. -/
def origin (directory : List String) (target : String) : List String :=
  if isAbsolute target then [] else directory

/-- A way leads to a place, over at most so many links. -/
inductive Reaches (store : Store) (follow : Bool) :
    Nat → List String → List String → List String → Prop where
  | arrived {links : Nat} {directory way place : List String}
      (h : store.advance follow directory way = .arrived place) :
      Reaches store follow links directory way place
  | redirected {links : Nat} {directory way place next rest : List String}
      {target : String}
      (h : store.advance follow directory way = .redirected next target rest)
      (hne : target ≠ "")
      (hrest : Reaches store follow links (origin next target)
        (steps target ++ remaining target rest) place) :
      Reaches store follow (links + 1) directory way place

theorem reaches_of_resolve {way : List String}
    (h : store.resolve follow links directory way = .ok place) :
    Reaches store follow links directory way place := by
  induction links generalizing directory way with
  | zero =>
      rw [resolve] at h
      split at h
      next harrived =>
        cases h
        exact .arrived harrived
      next => cases h
      next => cases h
  | succ links ih =>
      rw [resolve] at h
      split at h
      next harrived =>
        cases h
        exact .arrived harrived
      next => cases h
      next hredirected =>
        dsimp only at h
        split at h
        next => cases h
        next hempty =>
          rw [String.isEmpty_iff] at hempty
          exact .redirected hredirected hempty (ih h)

theorem Reaches.resolve {way : List String}
    (h : Reaches store follow links directory way place) :
    store.resolve follow links directory way = .ok place := by
  induction h with
  | @arrived links _ _ _ h =>
      cases links <;> rw [Store.resolve, h]
  | redirected h hne _ ih =>
      rw [Store.resolve, h]
      dsimp only
      rw [if_neg (by rwa [String.isEmpty_iff])]
      exact ih

theorem resolve_eq_ok_iff {way : List String} :
    store.resolve follow links directory way = .ok place ↔
      Reaches store follow links directory way place :=
  ⟨reaches_of_resolve, Reaches.resolve⟩

/-- Only the first walk of a chain sees where it starts. -/
theorem resolve_congr {directory' way way' : List String}
    (h : store.advance follow directory way =
      store.advance follow directory' way') :
    store.resolve follow links directory way =
      store.resolve follow links directory' way' := by
  cases links <;> rw [resolve, resolve, h]

theorem resolve_of_redirected {way next rest : List String} {target : String}
    (h : store.advance follow directory way = .redirected next target rest)
    (hne : target ≠ "") :
    store.resolve follow (links + 1) directory way =
      store.resolve follow links (origin next target)
        (steps target ++ remaining target rest) := by
  rw [Store.resolve, h]
  dsimp only
  rw [if_neg (by rwa [String.isEmpty_iff])]
  rfl

/-! ## Ways through a directory -/

theorem remaining_of_ne_nil (target : String) {rest : List String}
    (h : rest ≠ []) : remaining target rest = rest := by
  rw [remaining, List.isEmpty_eq_false_iff.2 h, Bool.and_false]
  rfl

theorem exists_remaining_append (target : String) (rest : List String)
    {tail : List String} (h : IsPoint tail) :
    ∃ tail', IsPoint tail' ∧
      remaining target (rest ++ tail) = rest ++ tail' := by
  by_cases hne : rest ++ tail = []
  · obtain ⟨rfl, rfl⟩ := List.append_eq_nil_iff.1 hne
    cases hslash : endsInSlash target with
    | false => exact ⟨[], Or.inl rfl, by simp [remaining, hslash]⟩
    | true => exact ⟨["."], Or.inr rfl, by simp [remaining, hslash]⟩
  · exact ⟨tail, h, remaining_of_ne_nil target hne⟩

/-- Behind a way to a directory one goes on from that directory, with the links
that are left. -/
theorem Reaches.append {way tail more : List String}
    {children : List (String × Entry)} (htail : IsPoint tail)
    (h : Reaches store true links directory (way ++ tail) place)
    (hplace : store.root.get? place = some (.directory children))
    (hmore : more ≠ []) :
    ∃ left, store.resolve follow links directory (way ++ more) =
      store.resolve follow left place more := by
  -- By induction on the chain: behind a link, the rest of the way is part of the
  -- way of the next walk, and a slash at the end of the target is the new tail.
  generalize hwhole : way ++ tail = whole at h
  induction h generalizing way tail with
  | @arrived links _ _ _ h =>
      subst hwhole
      exact ⟨links, resolve_congr (advance_append_of_arrived htail h hplace)⟩
  | @redirected links _ _ _ next _ target h hne _ ih =>
      subst hwhole
      obtain ⟨rest, rfl, hwalk⟩ :=
        advance_append_of_redirected htail hmore h
      obtain ⟨tail', htail', hremaining⟩ :=
        exists_remaining_append target rest htail
      have hwhole : steps target ++ rest ++ tail' =
          steps target ++ remaining target (rest ++ tail) := by
        rw [hremaining, List.append_assoc]
      obtain ⟨left, hleft⟩ := ih htail' hplace hwhole
      refine ⟨left, ?_⟩
      have hne' : rest ++ more ≠ [] := by simp [hmore]
      rw [resolve_of_redirected hwalk hne, remaining_of_ne_nil target hne',
        ← List.append_assoc]
      exact hleft

/-- Names lead from a directory down to a file, unless they are too long. -/
theorem advance_names {names : List String} {content : List UInt8}
    (hnames : ∀ name ∈ names, IsName name)
    (h : store.root.get? (directory ++ names) = some (.file content)) :
    store.advance follow directory names = .arrived (directory ++ names) ∨
      store.advance follow directory names = .failed .nameTooLong := by
  induction names generalizing directory with
  | nil =>
      rw [List.append_nil]
      exact Or.inl rfl
  | cons name rest ih =>
      obtain ⟨hname, hrest⟩ := List.forall_mem_cons.1 hnames
      rw [List.append_cons] at h ⊢
      rw [advance_cons]
      by_cases hsize : maxNameSize < name.utf8ByteSize
      · rw [step, if_neg hname.ne_current, if_neg hname.ne_parent, if_pos hsize]
        exact Or.inr rfl
      · rw [step_of_isName hname hsize]
        cases rest with
        | nil =>
            rw [List.append_nil] at h ⊢
            rw [h]
            exact Or.inl rfl
        | cons below rest =>
            rw [Entry.get?_append] at h
            obtain ⟨found, hfound, hbelow⟩ := Option.bind_eq_some_iff.1 h
            obtain ⟨children, _, rfl, _⟩ :=
              Entry.exists_directory_of_get?_cons hbelow
            rw [hfound]
            refine ih hrest ?_
            rw [Entry.get?_append, hfound]
            exact hbelow

/-! ## Links at the end of a way -/

theorem advance_unfollowed_of_arrived {way : List String}
    (h : store.advance true directory way = .arrived place) :
    store.advance false directory way = .arrived place := by
  induction way generalizing directory with
  | nil => exact h
  | cons name way ih =>
      rw [advance_cons] at h ⊢
      cases hstep : store.step directory name with
      | on next =>
          rw [hstep] at h
          exact ih h
      | link stop target =>
          rw [hstep] at h
          simp at h
      | last stop error =>
          rw [hstep] at h
          exact h
      | refused error =>
          rw [hstep] at h
          cases h

theorem advance_unfollowed_of_redirected {way next rest : List String}
    {target : String}
    (h : store.advance true directory way = .redirected next target rest) :
    store.advance false directory way = .redirected next target rest ∨
      ∃ stop, store.advance false directory way = .arrived stop ∧
        store.root.get? stop = some (.link target) := by
  induction way generalizing directory with
  | nil => cases h
  | cons name way ih =>
      rw [advance_cons] at h ⊢
      cases hstep : store.step directory name with
      | on next =>
          rw [hstep] at h
          exact ih h
      | link stop target =>
          rw [hstep] at h
          simp only [Bool.not_true, Bool.and_false, Bool.false_eq_true,
            if_false] at h
          cases h
          cases rest with
          | nil => exact Or.inr ⟨stop, rfl, get?_of_step_link hstep⟩
          | cons below rest => exact Or.inl rfl
      | last stop error =>
          rw [hstep] at h
          dsimp only at h
          split at h
          next => cases h
          next => cases h
      | refused error =>
          rw [hstep] at h
          cases h

/-- Without following a link at the end, a way leads to the same place or to such
a link. -/
theorem Reaches.unfollowed {way : List String}
    (h : Reaches store true links directory way place) :
    Reaches store false links directory way place ∨
      ∃ stop target, Reaches store false links directory way stop ∧
        store.root.get? stop = some (.link target) := by
  induction h with
  | arrived h => exact Or.inl (.arrived (advance_unfollowed_of_arrived h))
  | @redirected _ _ _ _ _ _ target h hne _ ih =>
      rcases advance_unfollowed_of_redirected h with hwalk | ⟨stop, hwalk, hlink⟩
      · rcases ih with hrest | ⟨stop, target', hrest, hlink⟩
        · exact Or.inl (.redirected hwalk hne hrest)
        · exact Or.inr ⟨stop, target', .redirected hwalk hne hrest, hlink⟩
      · exact Or.inr ⟨stop, target, .arrived hwalk, hlink⟩

/-! ## Paths -/

/-- A path is taken as the target of a link in the current directory would be. -/
theorem find_eq_ok_iff {path : String} {entry : Entry} :
    store.find follow path = .ok (place, entry) ↔
      checkPath path = .ok () ∧
        Reaches store follow maxLinks (origin store.current path)
          (steps path ++ remaining path []) place ∧
        store.root.get? place = some entry := by
  have hway : remaining path [] = if endsInSlash path then ["."] else [] := by
    rw [remaining, List.isEmpty_nil, Bool.and_true]
  rw [← resolve_eq_ok_iff, hway]
  simp only [find, Store.place, origin, bind, Except.bind]
  cases checkPath path with
  | error error => simp
  | ok =>
      generalize store.resolve follow maxLinks _ _ = resolved
      cases resolved with
      | error error => simp
      | ok stop =>
          simp only [Except.ok.injEq, true_and]
          cases hstop : store.root.get? stop with
          | none =>
              refine iff_of_false (fun h => by cases h) ?_
              rintro ⟨rfl, hplace⟩
              rw [hstop] at hplace
              cases hplace
          | some found =>
              rw [Except.ok.injEq, Prod.mk.injEq]
              constructor
              · rintro ⟨rfl, rfl⟩
                exact ⟨rfl, hstop⟩
              · rintro ⟨rfl, hplace⟩
                rw [hstop] at hplace
                exact ⟨rfl, Option.some.inj hplace⟩

section Below

variable {path : String} {children : List (String × Entry)}

theorem ne_empty_of_find {entry : Entry}
    (h : store.find follow path = .ok (place, entry)) : path ≠ "" := by
  rintro rfl
  obtain ⟨hcheck, _⟩ := find_eq_ok_iff.1 h
  cases hcheck

/-- The path of a file below a directory leads to its place, if it leads
anywhere. -/
theorem place_of_find_joinAll {names stop : List String} {content : List UInt8}
    {entry : Entry}
    (hdirectory : store.find true path = .ok (place, .directory children))
    (hnames : ∀ name ∈ names, IsName name)
    (hfile : store.root.get? (place ++ names) = some (.file content))
    (h : store.find follow (joinAll path names) = .ok (stop, entry)) :
    stop = place ++ names := by
  have hpath := ne_empty_of_find hdirectory
  obtain ⟨_, hreaches, hplace⟩ := find_eq_ok_iff.1 hdirectory
  obtain ⟨_, hstop, _⟩ := find_eq_ok_iff.1 h
  have hne : names ≠ [] := by
    rintro rfl
    rw [List.append_nil, hplace] at hfile
    cases hfile
  have hway : steps (joinAll path names) ++ remaining (joinAll path names) [] =
      steps path ++ names := by
    rw [steps_joinAll hpath hnames, remaining,
      endsInSlash_joinAll hpath hnames hne, Bool.false_and,
      if_neg Bool.false_ne_true, List.append_nil]
  obtain ⟨tail, htail, hremaining⟩ :=
    exists_remaining_append path [] (Or.inl rfl)
  rw [List.append_nil, List.nil_append] at hremaining
  rw [hremaining] at hreaches
  obtain ⟨left, hleft⟩ := hreaches.append htail hplace hne
  rw [hway, origin, isAbsolute_joinAll hpath hnames, ← origin] at hstop
  have hresolve := hleft.symm.trans hstop.resolve
  rcases advance_names hnames hfile with hwalk | hwalk
  · have harrived : Reaches store follow left place names (place ++ names) :=
      .arrived hwalk
    rw [harrived.resolve] at hresolve
    cases hresolve
    rfl
  · cases left <;> rw [resolve, hwalk] at hresolve <;> cases hresolve

/-- A walk that begins at a path to a directory lists its files, also if the path
leads there by a link. -/
theorem walk_of_find
    (h : store.find true path = .ok (place, .directory children)) :
    store.walk path = .ok (filesUnder path (.directory children)) := by
  obtain ⟨hcheck, hreaches, hplace⟩ := find_eq_ok_iff.1 h
  rcases hreaches.unfollowed with hsame | ⟨stop, target, hstop, hlink⟩
  · have hfind : store.find false path = .ok (place, .directory children) :=
      find_eq_ok_iff.2 ⟨hcheck, hsame, hplace⟩
    rw [walk, hfind]
    rfl
  · have hfind : store.find false path = .ok (stop, .link target) :=
      find_eq_ok_iff.2 ⟨hcheck, hstop, hlink⟩
    rw [walk, hfind, h]
    rfl

end Below

end Store

end JavaSurvey.Files
