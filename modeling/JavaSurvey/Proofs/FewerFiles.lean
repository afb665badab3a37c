import JavaSurvey.Proofs.FileFrames
import JavaSurvey.Proofs.PathOrder
import Mathlib.Data.List.Sort

/-!
# A store with fewer files

Some files of a store are taken away; directories, links and all other files
stay where they are. Nothing that could be found before is found elsewhere now:
files are never passed on the way to a place, so a way that led somewhere still
leads there, and only the files themselves are missing at its end.

What a directory lists is determined by the files below it (`Lists`): their
paths, each once, in ascending order. So a directory with fewer files lists what
it listed before, without them.

## Main results

* `Store.lists_of_discover`, `Store.Lists.unique`: discovery lists the files of a
  directory, and there is only one such list.
* `Store.WithoutFiles.find`: what paths lead to when files are taken away.
* `Store.WithoutFiles.discover`: what is discovered then.
* `Store.exists_withoutFiles`: any files can be taken away.
-/

namespace JavaSurvey.Files

namespace Store

/-! ## Lists of files -/

/-- A list of the marked files below a directory, in the order of their paths. -/
structure Lists (store : Store) (marker path : String) (place : List String)
    (files : List String) : Prop where
  sorted : files.Pairwise fun first second => le first second = true
  nodup : files.Nodup
  mem_iff : ∀ file, file ∈ files ↔ isMarked marker file = true ∧
    ∃ names content, store.root.get? (place ++ names) = some (.file content) ∧
      file = joinAll path names

section Lists

variable {store : Store} {marker path : String} {place : List String}
  {children : List (String × Entry)}

/-- The names on the way from a directory to something below it are names. -/
theorem isName_below {names : List String} {found : Entry}
    (hproper : store.root.Proper)
    (h : store.root.get? (place ++ names) = some found) :
    ∀ name ∈ names, IsName name := by
  intro name hname
  exact hproper.isName_of_get? h name (List.mem_append_right place hname)

/-- What is discovered is in the order of paths. -/
theorem pairwise_of_discover {files : List String}
    (h : store.discover marker path = .ok files) :
    files.Pairwise fun first second => le first second = true := by
  rw [discover] at h
  cases hwalk : store.walk path with
  | error error =>
      rw [hwalk] at h
      cases h
  | ok walked =>
      rw [hwalk] at h
      cases h
      exact List.pairwise_mergeSort le_trans le_total _

/-- Discovery in a directory succeeds and lists its files. -/
theorem lists_of_discover (hproper : store.root.Proper)
    (h : store.find true path = .ok (place, .directory children)) :
    ∃ files, store.discover marker path = .ok files ∧
      store.Lists marker path place files := by
  have hplace := (find_eq_ok_iff.1 h).2.2
  have hbelow := hproper.get? hplace
  have hdiscover : store.discover marker path =
      .ok (((filesUnder path (.directory children)).filter
        (isMarked marker)).mergeSort le) := by
    rw [discover, walk_of_find h]
    rfl
  refine ⟨_, hdiscover, pairwise_of_discover hdiscover, ?_, ?_⟩
  · rw [(List.mergeSort_perm _ _).nodup_iff]
    exact (Entry.nodup_filesUnder hbelow (ne_empty_of_find h)).filter _
  · intro file
    rw [List.mem_mergeSort, List.mem_filter, Entry.mem_filesUnder hbelow,
      and_comm]
    simp only [Entry.get?_append, hplace, Option.bind_some]

/-- There is only one list of the files below a directory: the order of paths
tells them apart. -/
theorem Lists.unique {files files' : List String} (hproper : store.root.Proper)
    (hpath : path ≠ "") (h : store.Lists marker path place files)
    (h' : store.Lists marker path place files') : files = files' := by
  have hperm : files.Perm files' :=
    (List.perm_ext_iff_of_nodup h.nodup h'.nodup).2 fun file =>
      (h.mem_iff file).trans (h'.mem_iff file).symm
  -- Ties in the order would leave a choice, but paths that are equal in it have
  -- the same components, and below one directory these tell the names.
  refine hperm.eq_of_pairwise ?_ h.sorted h'.sorted
  intro first second hfirst hsecond hle hge
  obtain ⟨_, names, _, hnames, rfl⟩ := (h.mem_iff first).1 hfirst
  obtain ⟨_, names', _, hnames', rfl⟩ := (h'.mem_iff second).1 hsecond
  rw [names_eq_of_components hpath (isName_below hproper hnames)
    (isName_below hproper hnames') (components_eq_of_le hle hge)]

end Lists

/-! ## Stores without some files -/

/-- The second store is the first one without the files at some places. -/
structure WithoutFiles (gone : List String → Prop) (old new : Store) :
    Prop where
  current : new.current = old.current
  file_iff : ∀ place content,
    new.root.get? place = some (.file content) ↔
      old.root.get? place = some (.file content) ∧ ¬ gone place
  link_iff : ∀ place target,
    new.root.get? place = some (.link target) ↔
      old.root.get? place = some (.link target)
  directory_iff : ∀ place,
    (∃ children, new.root.get? place = some (.directory children)) ↔
      ∃ children, old.root.get? place = some (.directory children)

namespace WithoutFiles

variable {gone : List String → Prop} {old new : Store} {follow : Bool}
  {place : List String}

/-- Ways lead where they led before. -/
theorem sameFrame (h : WithoutFiles gone old new) :
    SameFrame old.root.get? new.root.get? :=
  ⟨h.link_iff, h.directory_iff⟩

/-- A path that led to something leads to what is at the same place now. -/
theorem find (h : WithoutFiles gone old new) {path : String}
    {entry entry' : Entry} (hfind : old.find follow path = .ok (place, entry))
    (hplace : new.root.get? place = some entry') :
    new.find follow path = .ok (place, entry') := by
  obtain ⟨hcheck, hreaches, _⟩ := find_eq_ok_iff.1 hfind
  refine find_eq_ok_iff.2 ⟨hcheck, ?_, hplace⟩
  rw [h.current]
  exact hreaches.of_sameFrame h.sameFrame

theorem find_directory (h : WithoutFiles gone old new) {path : String}
    {children : List (String × Entry)}
    (hfind : old.find follow path = .ok (place, .directory children)) :
    ∃ children', new.find follow path = .ok (place, .directory children') := by
  obtain ⟨children', hplace⟩ :=
    (h.directory_iff place).2 ⟨children, (find_eq_ok_iff.1 hfind).2.2⟩
  exact ⟨children', h.find hfind hplace⟩

theorem find_file (h : WithoutFiles gone old new) {path : String}
    {content : List UInt8}
    (hfind : old.find follow path = .ok (place, .file content))
    (hgone : ¬ gone place) :
    new.find follow path = .ok (place, .file content) :=
  h.find hfind ((h.file_iff place content).2
    ⟨(find_eq_ok_iff.1 hfind).2.2, hgone⟩)

/-- What is discovered in a directory is what was discovered before, without the
files that are gone. -/
theorem discover (h : WithoutFiles gone old new) {marker path : String}
    {children : List (String × Entry)} {files : List String}
    {keep : String → Bool} (hproper : old.root.Proper)
    (hproper' : new.root.Proper)
    (hdirectory : old.find true path = .ok (place, .directory children))
    (hfiles : old.discover marker path = .ok files)
    (hkeep : ∀ names, joinAll path names ∈ files →
      (keep (joinAll path names) = true ↔ ¬ gone (place ++ names))) :
    new.discover marker path = .ok (files.filter keep) := by
  obtain ⟨_, hold, hlists⟩ := lists_of_discover hproper hdirectory
  cases hfiles.symm.trans hold
  obtain ⟨_, hdirectory'⟩ := h.find_directory hdirectory
  obtain ⟨files', hnew, hlists'⟩ := lists_of_discover hproper' hdirectory'
  have hfilter : new.Lists marker path place (files.filter keep) := by
    refine ⟨hlists.sorted.filter _, hlists.nodup.filter _, ?_⟩
    intro file
    rw [List.mem_filter]
    constructor
    · rintro ⟨hmem, hkept⟩
      obtain ⟨hmarked, names, content, hfile, rfl⟩ := (hlists.mem_iff file).1 hmem
      have hnot := (hkeep names hmem).1 hkept
      exact ⟨hmarked, names, content, (h.file_iff _ _).2 ⟨hfile, hnot⟩, rfl⟩
    · rintro ⟨hmarked, names, content, hfile, rfl⟩
      obtain ⟨hfile, hnot⟩ := (h.file_iff _ _).1 hfile
      have hmem := (hlists.mem_iff _).2 ⟨hmarked, names, content, hfile, rfl⟩
      exact ⟨hmem, (hkeep names hmem).2 hnot⟩
  rw [hnew, hlists'.unique hproper' (ne_empty_of_find hdirectory') hfilter]

end WithoutFiles

end Store

/-! ## Trees without some files -/

mutual

/-- A tree without the files below it that stand at some places. -/
def Entry.prune (gone : List String → Bool) : Entry → Entry
  | .file content => .file content
  | .link target => .link target
  | .directory children => .directory (pruneChildren gone children)

/-- The children of a directory without the files among and below them that stand
at some places. -/
def pruneChildren (gone : List String → Bool) :
    List (String × Entry) → List (String × Entry)
  | [] => []
  | (name, entry) :: rest =>
    if entry.isFile && gone [name] then pruneChildren gone rest
    else (name, entry.prune fun below => gone (name :: below)) ::
      pruneChildren gone rest

end

theorem fst_pruneChildren_sublist (gone : List String → Bool)
    (children : List (String × Entry)) :
    ((pruneChildren gone children).map Prod.fst).Sublist
      (children.map Prod.fst) := by
  induction children with
  | nil => exact List.Sublist.refl _
  | cons child children ih =>
      rw [pruneChildren]
      split
      next => exact ih.cons _
      next => exact ih.cons_cons _

theorem child?_pruneChildren (gone : List String → Bool)
    {children : List (String × Entry)} (h : (children.map Prod.fst).Nodup)
    (name : String) :
    child? (pruneChildren gone children) name =
      (child? children name).bind fun child =>
        if child.isFile && gone [name] then none
        else some (child.prune fun below => gone (name :: below)) := by
  induction children with
  | nil => rfl
  | cons child children ih =>
      obtain ⟨first, entry⟩ := child
      rw [List.map_cons, List.nodup_cons] at h
      obtain ⟨hfirst, hnodup⟩ := h
      by_cases hname : name = first
      · subst hname
        have habsent : child? (pruneChildren gone children) name = none := by
          rw [child?, List.lookup_eq_none_iff]
          intro child hchild
          have hmem := (fst_pruneChildren_sublist gone children).subset
            (List.mem_map_of_mem hchild)
          rw [bne_iff_ne]
          rintro rfl
          exact hfirst hmem
        rw [pruneChildren, child?_cons_self, Option.bind_some]
        split_ifs
        · exact habsent
        · exact child?_cons_self
      · rw [child?_cons_of_ne hname, ← ih hnodup, pruneChildren]
        split_ifs
        · rfl
        · exact child?_cons_of_ne hname

namespace Entry

/-- What stands where in a tree without some files. -/
theorem get?_prune {entry : Entry} (h : entry.Proper) (gone : List String → Bool)
    (place : List String) :
    (entry.prune gone).get? place =
      (entry.get? place).bind fun found =>
        if found.isFile && gone place && !place.isEmpty then none
        else some (found.prune fun below => gone (place ++ below)) := by
  induction place generalizing entry gone with
  | nil => simp [get?_nil]
  | cons name rest ih =>
      cases entry with
      | file content => rfl
      | link target => rfl
      | directory children =>
          rw [prune, get?_directory_cons, get?_directory_cons,
            child?_pruneChildren gone h.nodup]
          cases hchild : child? children name with
          | none => rfl
          | some child =>
              have hproper := h.child (mem_of_child? hchild)
              simp only [Option.bind_some]
              by_cases hgone : (child.isFile && gone [name]) = true
              · rw [if_pos hgone, Option.bind_none]
                cases child with
                | file content =>
                    cases rest with
                    | nil =>
                        rw [get?_nil, Option.bind_some, List.isEmpty_cons,
                          Bool.not_false, Bool.and_true, if_pos hgone]
                    | cons below rest => rfl
                | link target => cases hgone
                | directory children => cases hgone
              · rw [if_neg hgone, Option.bind_some, ih hproper]
                cases rest with
                | nil =>
                    rw [get?_nil, Option.bind_some, Option.bind_some,
                      List.isEmpty_nil, Bool.not_true, Bool.and_false,
                      if_neg Bool.false_ne_true, List.isEmpty_cons,
                      Bool.not_false, Bool.and_true, if_neg hgone]
                    rfl
                | cons below rest => rfl

/-- A directory that is left is what is left of a directory. -/
theorem get?_prune_eq_directory_iff {entry : Entry} (h : entry.Proper)
    {gone : List String → Bool} {place : List String}
    {children : List (String × Entry)} :
    (entry.prune gone).get? place = some (directory children) ↔
      ∃ children', entry.get? place = some (directory children') ∧
        children = pruneChildren (fun below => gone (place ++ below)) children' := by
  rw [get?_prune h]
  cases entry.get? place with
  | none => simp
  | some found =>
      cases found with
      | file content => simp [prune]
      | link target => simp [prune]
      | directory children' =>
          have hfile : (directory children').isFile = false := rfl
          rw [Option.bind_some, hfile, Bool.false_and, Bool.false_and,
            if_neg Bool.false_ne_true, prune]
          constructor
          · intro heq
            cases heq
            exact ⟨children', rfl, rfl⟩
          · rintro ⟨_, heq, rfl⟩
            cases heq
            rfl

theorem Proper.prune {entry : Entry} (h : entry.Proper)
    (gone : List String → Bool) : (entry.prune gone).Proper := by
  intro place children hplace
  obtain ⟨children', hchildren, rfl⟩ := (get?_prune_eq_directory_iff h).1 hplace
  obtain ⟨hnodup, hname⟩ := h place children' hchildren
  have hnames := fst_pruneChildren_sublist (fun below => gone (place ++ below))
    children'
  refine ⟨hnodup.sublist hnames, ?_⟩
  intro child hchild
  obtain ⟨child', hchild', hfst⟩ :=
    List.mem_map.1 (hnames.subset (List.mem_map_of_mem hchild))
  rw [← hfst]
  exact hname child' hchild'

end Entry

/-- Files below the root can be taken away from a proper tree, and it stays
proper. -/
theorem Store.exists_withoutFiles {store : Store} {children : List (String × Entry)}
    (hproper : store.root.Proper) (hroot : store.root = .directory children)
    (gone : List String → Prop) :
    ∃ rest : Store, rest.root.Proper ∧ store.WithoutFiles gone rest := by
  classical
  refine ⟨{ store with root := store.root.prune fun place => gone place },
    hproper.prune _, rfl, ?_, ?_, ?_⟩
  · intro place content
    dsimp only
    rw [Entry.get?_prune hproper]
    cases place with
    | nil =>
        rw [hroot]
        simp [Entry.get?_nil, Entry.prune]
    | cons name below =>
        cases store.root.get? (name :: below) with
        | none => simp
        | some found =>
            by_cases hgone : gone (name :: below) <;>
              cases found <;> simp [Entry.prune, Entry.isFile, hgone]
  · intro place target
    dsimp only
    rw [Entry.get?_prune hproper]
    cases store.root.get? place with
    | none => simp
    | some found => cases found <;> simp [Entry.prune, Entry.isFile]
  · intro place
    simp only [Entry.get?_prune_eq_directory_iff hproper]
    constructor
    · rintro ⟨_, children, h, _⟩
      exact ⟨children, h⟩
    · rintro ⟨children, h⟩
      exact ⟨_, children, h, rfl⟩

end JavaSurvey.Files
