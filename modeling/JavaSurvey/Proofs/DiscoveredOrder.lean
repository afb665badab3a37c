import JavaSurvey.Analysis.Sources
import JavaSurvey.Proofs.FewerFiles
import JavaSurvey.Proofs.Utf8Text

/-!
# The order of a walk

A walk lists what lies below one name before what lies below the next, and names
come by their bytes. So two files that it lists part at some directory, from which
the first one goes on by the smaller name, and that is how paths are ordered. The
files are found in the order of their paths, and sorting them moves none.

## Main results

* `Entry.partsBefore_filesUnder`: the files of a directory part in its order.
* `Store.discover_eq_filter`: discovery only leaves files out of a walk.
* `discover_keeps_walk_order`: what is discovered below a directory, and in which
  order.
-/

namespace JavaSurvey.Files

/-! ## Marked names -/

theorem containsText_iff (part text : List Char) :
    containsText part text = true ↔ part <:+: text := by
  induction text with
  | nil => rw [containsText, List.isEmpty_iff, List.infix_nil]
  | cons c text ih =>
      rw [containsText, Bool.or_eq_true, List.isPrefixOf_iff_prefix, ih,
        List.infix_cons_iff]

section Marked

variable {marker path name : String} {names : List String}

theorem fileName?_joinAll (hpath : path ≠ "")
    (h : ∀ step ∈ names ++ [name], IsName step) :
    fileName? (joinAll path (names ++ [name])) = some name := by
  rw [fileName?, components_joinAll hpath h, List.map_append, ← List.append_assoc,
    List.map_singleton, List.getLast?_concat]

/-- A file below a directory is marked if its own name contains the marker. -/
theorem isMarked_joinAll (hpath : path ≠ "")
    (h : ∀ step ∈ names ++ [name], IsName step) :
    isMarked marker (joinAll path (names ++ [name])) = true ↔
      marker.toList <:+: name.toList := by
  rw [isMarked, fileName?_joinAll hpath h]
  exact containsText_iff marker.toList name.toList

end Marked

/-! ## Paths that part -/

/-- Two paths part at a directory, from which the first goes on by the smaller
name. -/
def PartsBefore (first second : String) : Prop :=
  ∃ above name other rest others,
    components first = above ++ Component.name name :: rest ∧
      components second = above ++ Component.name other :: others ∧ name < other

/-- Where paths part decides their order, whatever names are compared by. -/
theorem PartsBefore.map_lt {κ : Type} [LT κ] {first second : String}
    (h : PartsBefore first second) (key : Component → κ)
    (hkey : ∀ name other : String, name < other →
      key (.name name) < key (.name other)) :
    (components first).map key < (components second).map key := by
  obtain ⟨above, name, other, rest, others, hfirst, hsecond, hlt⟩ := h
  rw [hfirst, hsecond, List.map_append, List.map_append, List.map_cons, List.map_cons]
  exact List.append_left_lt (List.Lex.rel (hkey name other hlt))

theorem PartsBefore.le {first second : String} (h : PartsBefore first second) :
    le first second = true := by
  rw [le_iff_key_le]
  refine le_of_lt (h.map_lt Component.key ?_)
  intro name other hlt
  exact Prod.Lex.toLex_lt_toLex.2 (.inr ⟨rfl, hlt⟩)

/-- A component as bytes, behind its kind. -/
def Component.bytes (component : Component) : ℕ ×ₗ List UInt8 :=
  toLex (component.rank, Text.Utf8.encode component.text)

/-- The components of a path as bytes. -/
def pathBytes (path : String) : List (ℕ ×ₗ List UInt8) :=
  (components path).map Component.bytes

theorem PartsBefore.pathBytes_lt {first second : String}
    (h : PartsBefore first second) : pathBytes first < pathBytes second := by
  refine h.map_lt Component.bytes ?_
  intro name other hlt
  exact Prod.Lex.toLex_lt_toLex.2 (.inr ⟨rfl, Text.Utf8.encode_lt_encode hlt⟩)

namespace Entry

/-! ## Walks -/

section Walks

variable {children : List (String × Entry)} {path : String}

/-- The children of a directory are listed by strictly ascending names. -/
theorem pairwise_listed (hnodup : (children.map Prod.fst).Nodup) :
    ((filesOfChildren path children).mergeSort fun a b => a.1 ≤ b.1).Pairwise
      fun first second => first.1 < second.1 := by
  have hsorted : ((filesOfChildren path children).mergeSort
      fun a b => a.1 ≤ b.1).Pairwise
      fun first second => decide (first.1 ≤ second.1) = true := by
    refine List.pairwise_mergeSort ?_ ?_ _
    · intro first second third h h'
      exact decide_eq_true ((of_decide_eq_true h).trans (of_decide_eq_true h'))
    · intro first second
      rw [Bool.or_eq_true, decide_eq_true_iff, decide_eq_true_iff]
      exact LinearOrder.le_total _ _
  have hnames : ((filesOfChildren path children).map Prod.fst).Nodup := by
    rw [filesOfChildren_eq_map, List.map_map]
    exact hnodup
  have hdistinct := ((List.mergeSort_perm (filesOfChildren path children)
    fun a b => a.1 ≤ b.1).map Prod.fst).nodup_iff.2 hnames
  refine (hsorted.and (List.pairwise_map.1 hdistinct)).imp ?_
  intro first second h
  exact lt_of_le_of_ne (of_decide_eq_true h.1) h.2

/-- Files below different children part at the directory. -/
theorem partsBefore_of_children (h : (directory children).Proper) (hpath : path ≠ "")
    {first second : String × Entry} (hfirst : first ∈ children)
    (hsecond : second ∈ children) (hlt : first.1 < second.1) {file other : String}
    (hfile : file ∈ filesUnder (join path first.1) first.2)
    (hother : other ∈ filesUnder (join path second.1) second.2) :
    PartsBefore file other := by
  have hcomponents : ∀ child ∈ children,
      ∀ below ∈ filesUnder (join path child.1) child.2,
      ∃ rest, components below = components path ++ .name child.1 :: rest := by
    intro child hchild below hbelow
    obtain ⟨names, content, hfound, rfl⟩ :=
      (mem_filesUnder (h.child hchild)).1 hbelow
    refine ⟨names.map Component.name, ?_⟩
    rw [components_joinAll (join_ne_empty hpath (h.isName hchild))
        ((h.child hchild).isName_of_get? hfound),
      components_join hpath (h.isName hchild), List.append_assoc,
      List.singleton_append]
  obtain ⟨rest, hrest⟩ := hcomponents first hfirst file hfile
  obtain ⟨others, hothers⟩ := hcomponents second hsecond other hother
  exact ⟨components path, first.1, second.1, rest, others, hrest, hothers, hlt⟩

end Walks

/-- The files of a proper tree are listed so that of two files the one listed first
goes on by the smaller name where they part. -/
theorem partsBefore_filesUnder {entry : Entry} (h : entry.Proper) {path : String}
    (hpath : path ≠ "") : (filesUnder path entry).Pairwise PartsBefore := by
  induction entry using Entry.induction generalizing path with
  | file content => exact List.pairwise_singleton PartsBefore path
  | link target => exact List.Pairwise.nil
  | directory children ih =>
      have hlisted : ∀ listed ∈ (filesOfChildren path children).mergeSort
          fun a b => a.1 ≤ b.1,
          ∃ child ∈ children,
            (child.1, filesUnder (join path child.1) child.2) = listed := by
        intro listed hmem
        rw [List.mem_mergeSort, filesOfChildren_eq_map] at hmem
        exact List.mem_map.1 hmem
      rw [filesUnder, List.pairwise_flatMap]
      refine ⟨?_, ?_⟩
      · intro listed hmem
        obtain ⟨child, hchild, rfl⟩ := hlisted listed hmem
        exact ih child hchild (h.child hchild)
          (join_ne_empty hpath (h.isName hchild))
      · refine (pairwise_listed h.nodup).imp_of_mem ?_
        intro listed listed' hmem hmem' hlt file hfile other hother
        obtain ⟨first, hfirst, rfl⟩ := hlisted listed hmem
        obtain ⟨second, hsecond, rfl⟩ := hlisted listed' hmem'
        exact partsBefore_of_children h hpath hfirst hsecond hlt hfile hother

end Entry

/-! ## Discovery -/

namespace Store

variable {store : Store} {marker path : String} {place : List String}
  {children : List (String × Entry)}

/-- Sorting what a walk found changes nothing. -/
theorem discover_eq_filter (hproper : store.root.Proper)
    (h : store.find true path = .ok (place, .directory children)) :
    store.discover marker path =
      .ok ((filesUnder path (.directory children)).filter (isMarked marker)) := by
  have hbelow := hproper.get? (find_eq_ok_iff.1 h).2.2
  have hparts := Entry.partsBefore_filesUnder hbelow (ne_empty_of_find h)
  have hsorted := (hparts.filter (isMarked marker)).imp PartsBefore.le
  rw [discover, walk_of_find h, Except.map, List.mergeSort_of_pairwise hsorted]

/-- The places of the files below a directory end in the names of the files. -/
theorem mem_filesUnder_iff (hproper : store.root.Proper)
    (h : store.find true path = .ok (place, .directory children)) {file : String} :
    file ∈ filesUnder path (.directory children) ↔
      ∃ names name content,
        store.root.get? (place ++ (names ++ [name])) = some (.file content) ∧
          file = joinAll path (names ++ [name]) := by
  have hplace := (find_eq_ok_iff.1 h).2.2
  have hget : ∀ names, store.root.get? (place ++ names) =
      (Entry.directory children).get? names := by
    intro names
    rw [Entry.get?_append, hplace, Option.bind_some]
  simp only [Entry.mem_filesUnder (hproper.get? hplace), hget]
  constructor
  · rintro ⟨names, content, hfound, rfl⟩
    rcases List.eq_nil_or_concat' names with rfl | ⟨names, name, rfl⟩
    · cases hfound
    · exact ⟨names, name, content, hfound, rfl⟩
  · rintro ⟨names, name, content, hfound, rfl⟩
    exact ⟨names ++ [name], content, hfound, rfl⟩

end Store

/-- Below a directory, discovery finds the files whose own names contain the marker,
at any depth and by no links, in the order in which a walk meets them. These come by
the bytes of the components of their paths, each before the next. -/
theorem discover_keeps_walk_order (store : Store) (marker path : String)
    (place : List String) (children : List (String × Entry))
    (hproper : store.root.Proper)
    (hdirectory : store.find true path = .ok (place, .directory children)) :
    ∃ walked, store.walk path = .ok walked ∧
      walked.Pairwise (fun first second => pathBytes first < pathBytes second) ∧
      Analysis.discover marker store path = .ok (walked.filter (isMarked marker)) ∧
      ∀ file, file ∈ walked.filter (isMarked marker) ↔
        ∃ names name content,
          store.root.get? (place ++ (names ++ [name])) = some (.file content) ∧
            marker.toList <:+: name.toList ∧
            file = joinAll path (names ++ [name]) := by
  have hpath := Store.ne_empty_of_find hdirectory
  have hbelow := hproper.get? (Store.find_eq_ok_iff.1 hdirectory).2.2
  refine ⟨_, Store.walk_of_find hdirectory, ?_, ?_, ?_⟩
  · exact (Entry.partsBefore_filesUnder hbelow hpath).imp PartsBefore.pathBytes_lt
  · rw [Analysis.discover, Store.discover_eq_filter hproper hdirectory]
    rfl
  · intro file
    rw [List.mem_filter, Store.mem_filesUnder_iff hproper hdirectory]
    constructor
    · rintro ⟨⟨names, name, content, hfound, rfl⟩, hmarked⟩
      have hnames := Store.isName_below hproper hfound
      exact ⟨names, name, content, hfound, (isMarked_joinAll hpath hnames).1 hmarked, rfl⟩
    · rintro ⟨names, name, content, hfound, hmarked, rfl⟩
      have hnames := Store.isName_below hproper hfound
      exact ⟨⟨names, name, content, hfound, rfl⟩, (isMarked_joinAll hpath hnames).2 hmarked⟩

/-- Files and directories in no order. A link leads back up, and the texts of the
paths are in another order than the paths. -/
def crossingFiles : List (String × Entry) :=
  [("b.java", .file []), ("a.java", .file []), ("up", .link "/src"),
    ("a", .directory [("notes.txt", .file []), ("c.java", .file [])]),
    ("a-b", .directory [("x.java", .file [])])]

/-- A store with just a directory of these files. -/
def crossingStore : Store :=
  ⟨.directory [("src", .directory crossingFiles)], []⟩

theorem proper_crossingStore : crossingStore.root.Proper := by
  have hleft : (Entry.directory
      [("notes.txt", .file []), ("c.java", .file [])]).Proper := by
    refine Entry.proper_directory (by decide +kernel) (by decide +kernel) ?_
    simp [Entry.proper_file]
  have hright : (Entry.directory [("x.java", .file [])]).Proper := by
    refine Entry.proper_directory (by decide +kernel) (by decide +kernel) ?_
    simp [Entry.proper_file]
  have hfiles : (Entry.directory crossingFiles).Proper := by
    refine Entry.proper_directory (by decide +kernel) (by decide +kernel) ?_
    simp [crossingFiles, Entry.proper_file, Entry.proper_link, hleft, hright]
  refine Entry.proper_directory (by decide +kernel) (by decide +kernel) ?_
  simpa using hfiles

theorem discover_keeps_walk_order_crossing :
    crossingStore.root.Proper ∧
      crossingStore.find true "src" = .ok (["src"], .directory crossingFiles) ∧
      ∃ walked, crossingStore.walk "src" = .ok walked ∧
        walked.Pairwise (fun first second => pathBytes first < pathBytes second) ∧
        Analysis.discover ".java" crossingStore "src" =
          .ok (walked.filter (isMarked ".java")) ∧
        ∀ file, file ∈ walked.filter (isMarked ".java") ↔
          ∃ names name content,
            crossingStore.root.get? (["src"] ++ (names ++ [name])) =
                some (.file content) ∧
              ".java".toList <:+: name.toList ∧
              file = joinAll "src" (names ++ [name]) :=
  ⟨proper_crossingStore, rfl,
    discover_keeps_walk_order crossingStore ".java" "src" ["src"] crossingFiles
      proper_crossingStore rfl⟩

end JavaSurvey.Files
