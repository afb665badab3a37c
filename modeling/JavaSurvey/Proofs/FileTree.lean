import JavaSurvey.Files.Discovery
import JavaSurvey.Proofs.Collections
import JavaSurvey.Proofs.JoinedPaths

/-!
# Files in a tree

Places and paths are two ways to tell a file below a directory. A place is the
row of names that lead to the file; its path is the path of the directory joined
with these names. In a proper tree, where siblings have different names and
names are names, the two agree: a directory lists each file once, under the path
of its place. Which files it lists depends on which places are files, and on
nothing else.

## Main results

* `Entry.mem_filesUnder`: the files of a directory are listed by the paths of
  their places.
* `Entry.nodup_filesUnder`: each is listed once.
-/

namespace JavaSurvey.Files

/-! ## Children by name -/

section Children

variable {children : List (String × Entry)} {name : String} {entry : Entry}

theorem child?_cons_self : child? ((name, entry) :: children) name = some entry := by
  rw [child?, List.lookup_cons, beq_self_eq_true]

theorem child?_cons_of_ne {other : String} (h : name ≠ other) :
    child? ((other, entry) :: children) name = child? children name := by
  rw [child?, List.lookup_cons, beq_false_of_ne h, ← child?]

theorem mem_of_child? (h : child? children name = some entry) :
    (name, entry) ∈ children := by
  obtain ⟨before, after, rfl, _⟩ := List.lookup_eq_some_iff.1 h
  exact List.mem_append_right before List.mem_cons_self

/-- Among siblings with different names each is found by its name. -/
theorem child?_of_mem (hnodup : (children.map Prod.fst).Nodup)
    (h : (name, entry) ∈ children) : child? children name = some entry :=
  Data.lookup_of_mem hnodup h

end Children

namespace Entry

/-! ## Places -/

theorem get?_nil (entry : Entry) : entry.get? [] = some entry := by
  rw [get?]

theorem get?_directory_cons (children : List (String × Entry)) (name : String)
    (rest : List String) :
    (directory children).get? (name :: rest) =
      (child? children name).bind fun child => child.get? rest := by
  rw [get?]
  cases child? children name <;> rfl

/-- Only a directory has something below it. -/
theorem exists_directory_of_get?_cons {entry found : Entry} {name : String}
    {rest : List String} (h : entry.get? (name :: rest) = some found) :
    ∃ children child, entry = directory children ∧
      child? children name = some child ∧ child.get? rest = some found := by
  cases entry with
  | file content => cases h
  | link target => cases h
  | directory children =>
      rw [get?_directory_cons] at h
      obtain ⟨child, hchild, hfound⟩ := Option.bind_eq_some_iff.1 h
      exact ⟨children, child, rfl, hchild, hfound⟩

/-- Where there is a directory, the whole is one. -/
theorem exists_eq_directory {entry : Entry} {place : List String}
    {children : List (String × Entry)}
    (h : entry.get? place = some (directory children)) :
    ∃ children', entry = directory children' := by
  cases place with
  | nil => exact ⟨children, Option.some.inj ((get?_nil entry).symm.trans h)⟩
  | cons name rest =>
      obtain ⟨children', _, rfl, _⟩ := exists_directory_of_get?_cons h
      exact ⟨children', rfl⟩

theorem get?_append (entry : Entry) (first second : List String) :
    entry.get? (first ++ second) =
      (entry.get? first).bind fun found => found.get? second := by
  induction first generalizing entry with
  | nil => rw [get?_nil, List.nil_append, Option.bind_some]
  | cons name first ih =>
      cases entry with
      | directory children =>
          rw [List.cons_append, get?_directory_cons, get?_directory_cons,
            Option.bind_assoc]
          congr 1
          funext child
          exact ih child
      | file content => rfl
      | link target => rfl

/-! ## Proper trees -/

/-- In every directory, different children have different names, and names are
names. -/
def Proper (entry : Entry) : Prop :=
  ∀ place children, entry.get? place = some (directory children) →
    (children.map Prod.fst).Nodup ∧ ∀ child ∈ children, IsName child.1

theorem proper_file (content : List UInt8) : (file content).Proper := by
  intro place children h
  obtain ⟨_, heq⟩ := exists_eq_directory h
  cases heq

theorem proper_link (target : String) : (link target).Proper := by
  intro place children h
  obtain ⟨_, heq⟩ := exists_eq_directory h
  cases heq

/-- A directory is proper if its names and its children are. -/
theorem proper_directory {children : List (String × Entry)}
    (hnodup : (children.map Prod.fst).Nodup)
    (hname : ∀ child ∈ children, IsName child.1)
    (hchild : ∀ child ∈ children, child.2.Proper) :
    (directory children).Proper := by
  intro place below h
  cases place with
  | nil =>
      cases (get?_nil _).symm.trans h
      exact ⟨hnodup, hname⟩
  | cons name rest =>
      obtain ⟨_, child, heq, hfound, hrest⟩ := exists_directory_of_get?_cons h
      cases heq
      exact hchild (name, child) (mem_of_child? hfound) rest below hrest

namespace Proper

theorem get? {entry found : Entry} {place : List String} (h : entry.Proper)
    (hfound : entry.get? place = some found) : found.Proper := by
  intro below children hbelow
  refine h (place ++ below) children ?_
  rw [get?_append, hfound]
  exact hbelow

variable {children : List (String × Entry)}

theorem nodup (h : (directory children).Proper) :
    (children.map Prod.fst).Nodup :=
  (h [] children (get?_nil _)).1

theorem isName (h : (directory children).Proper) {child : String × Entry}
    (hchild : child ∈ children) : IsName child.1 :=
  (h [] children (get?_nil _)).2 child hchild

theorem child (h : (directory children).Proper) {child : String × Entry}
    (hchild : child ∈ children) : child.2.Proper := by
  have hfound : (directory children).get? [child.1] = some child.2 := by
    rw [get?_directory_cons, child?_of_mem h.nodup hchild]
    exact get?_nil child.2
  exact h.get? hfound

/-- The names on the way to something are names. -/
theorem isName_of_get? {entry found : Entry} {place : List String}
    (h : entry.Proper) (hfound : entry.get? place = some found) :
    ∀ name ∈ place, IsName name := by
  induction place generalizing entry with
  | nil => simp
  | cons name rest ih =>
      obtain ⟨children, child, rfl, hchild, hrest⟩ :=
        exists_directory_of_get?_cons hfound
      have hmem := mem_of_child? hchild
      exact List.forall_mem_cons.2 ⟨h.isName hmem, ih (h.child hmem) hrest⟩

end Proper

/-! ## Files of a directory -/

/-- What holds of files and links, and of a directory if it holds of all its
children, holds of all entries. -/
theorem induction {motive : Entry → Prop} (file : ∀ content, motive (.file content))
    (link : ∀ target, motive (.link target))
    (directory : ∀ children : List (String × Entry),
      (∀ child ∈ children, motive child.2) → motive (.directory children)) :
    ∀ entry, motive entry
  | .file content => file content
  | .link target => link target
  | .directory children => directory children fun child _ =>
      induction file link directory child.2
termination_by entry => sizeOf entry
decreasing_by
  have hlt := List.sizeOf_lt_of_mem ‹child ∈ children›
  cases child
  simp only [Entry.directory.sizeOf_spec, Prod.mk.sizeOf_spec] at hlt ⊢
  omega

theorem filesOfChildren_eq_map (path : String) (children : List (String × Entry)) :
    filesOfChildren path children =
      children.map fun child => (child.1, filesUnder (join path child.1) child.2) := by
  induction children with
  | nil => rfl
  | cons child children ih => rw [filesOfChildren, ih, List.map_cons]

/-- The files below the children of a directory, in no particular order. -/
theorem perm_filesUnder_directory (path : String)
    (children : List (String × Entry)) :
    (filesUnder path (directory children)).Perm
      (children.flatMap fun child =>
        filesUnder (join path child.1) child.2) := by
  rw [filesUnder, filesOfChildren_eq_map]
  refine ((List.mergeSort_perm _ _).flatMap_right Prod.snd).trans ?_
  rw [List.flatMap_map]

/-- The files of a proper tree are listed by the paths of their places. -/
theorem mem_filesUnder {entry : Entry} (h : entry.Proper) {path file : String} :
    file ∈ filesUnder path entry ↔
      ∃ names content, entry.get? names = some (.file content) ∧
        file = joinAll path names := by
  induction entry using Entry.induction generalizing path with
  | file content =>
      rw [filesUnder, List.mem_singleton]
      constructor
      · rintro rfl
        exact ⟨[], content, get?_nil _, rfl⟩
      · rintro ⟨names, found, hfound, rfl⟩
        cases names with
        | nil => rfl
        | cons name rest =>
            obtain ⟨_, _, heq, _⟩ := exists_directory_of_get?_cons hfound
            cases heq
  | link target =>
      rw [filesUnder]
      constructor
      · simp
      · rintro ⟨names, found, hfound, _⟩
        cases names with
        | nil => cases hfound
        | cons name rest =>
            obtain ⟨_, _, heq, _⟩ := exists_directory_of_get?_cons hfound
            cases heq
  | directory children ih =>
      rw [(perm_filesUnder_directory path children).mem_iff, List.mem_flatMap]
      constructor
      · rintro ⟨child, hchild, hfile⟩
        obtain ⟨names, content, hfound, rfl⟩ :=
          (ih child hchild (h.child hchild)).1 hfile
        refine ⟨child.1 :: names, content, ?_, rfl⟩
        rw [get?_directory_cons, child?_of_mem h.nodup hchild]
        exact hfound
      · rintro ⟨names, content, hfound, rfl⟩
        cases names with
        | nil => cases hfound
        | cons name rest =>
            obtain ⟨_, child, heq, hchild, hrest⟩ :=
              exists_directory_of_get?_cons hfound
            cases heq
            have hmem := mem_of_child? hchild
            exact ⟨(name, child), hmem,
              (ih _ hmem (h.child hmem)).2 ⟨rest, content, hrest, rfl⟩⟩

/-- A file below one child is not below another. -/
theorem fst_eq_of_mem_filesUnder {children : List (String × Entry)}
    (h : (directory children).Proper) {path file : String} (hpath : path ≠ "")
    {first second : String × Entry} (hfirst : first ∈ children)
    (hsecond : second ∈ children)
    (hfile : file ∈ filesUnder (join path first.1) first.2)
    (hfile' : file ∈ filesUnder (join path second.1) second.2) :
    first.1 = second.1 := by
  obtain ⟨names, content, hfound, rfl⟩ :=
    (mem_filesUnder (h.child hfirst)).1 hfile
  obtain ⟨names', content', hfound', heq⟩ :=
    (mem_filesUnder (h.child hsecond)).1 hfile'
  have hnames : first.1 :: names = second.1 :: names' :=
    names_eq_of_components hpath
      (List.forall_mem_cons.2
        ⟨h.isName hfirst, (h.child hfirst).isName_of_get? hfound⟩)
      (List.forall_mem_cons.2
        ⟨h.isName hsecond, (h.child hsecond).isName_of_get? hfound'⟩)
      (congrArg components heq)
  exact (List.cons.inj hnames).1

/-- Each file is listed once. -/
theorem nodup_filesUnder {entry : Entry} (h : entry.Proper) {path : String}
    (hpath : path ≠ "") : (filesUnder path entry).Nodup := by
  induction entry using Entry.induction generalizing path with
  | file content => exact List.nodup_singleton path
  | link target => exact List.nodup_nil
  | directory children ih =>
      rw [(perm_filesUnder_directory path children).nodup_iff,
        List.nodup_flatMap]
      refine ⟨?_, ?_⟩
      · intro child hchild
        exact ih child hchild (h.child hchild)
          (join_ne_empty hpath (h.isName hchild))
      · refine (List.pairwise_map.1 h.nodup).imp_of_mem ?_
        intro first second hfirst hsecond hne file hfile hfile'
        exact hne (fst_eq_of_mem_filesUnder h hpath hfirst hsecond hfile hfile')

end Entry

end JavaSurvey.Files
