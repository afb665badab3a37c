import JavaSurvey.Files.Store
import Mathlib.Data.List.Basic

/-!
# The steps of joined paths

The path of a file below a directory is the path of the directory, joined with
one name after the other. Taken apart again, it has the steps of the directory
and then these names, provided the names are what a directory can hold: not
empty, without slashes, and different from one and two points. So the path
tells the names, and starts where the path of the directory starts. The same
holds of its components, by which paths are ordered.

## Main results

* `steps_joinAll`, `components_joinAll`: the steps and the components of a
  joined path.
* `names_eq_of_components`: different names make paths that the order of paths
  tells apart.
-/

namespace JavaSurvey.Files

/-- A text that can name an entry of a directory. -/
structure IsName (name : String) : Prop where
  ne_empty : name ≠ ""
  ne_current : name ≠ "."
  ne_parent : name ≠ ".."
  no_slash : '/' ∉ name.toList

instance (name : String) : Decidable (IsName name) :=
  decidable_of_iff
    (name ≠ "" ∧ name ≠ "." ∧ name ≠ ".." ∧ '/' ∉ name.toList)
    ⟨fun h => ⟨h.1, h.2.1, h.2.2.1, h.2.2.2⟩,
      fun h => ⟨h.ne_empty, h.ne_current, h.ne_parent, h.no_slash⟩⟩

/-! ## Pieces between slashes -/

theorem piecesFrom_append_slash (piece first second : List Char) :
    piecesFrom piece (first ++ '/' :: second) =
      piecesFrom piece first ++ piecesFrom [] second := by
  induction first generalizing piece with
  | nil => rfl
  | cons c first ih =>
      by_cases hslash : c = '/'
      · subst hslash
        rw [List.cons_append, piecesFrom, piecesFrom, ih, List.cons_append]
      · rw [List.cons_append, piecesFrom, piecesFrom, ih]
        · exact hslash
        · exact hslash

/-- A text without slashes is one piece. -/
theorem piecesFrom_of_no_slash (piece : List Char) {text : List Char}
    (h : '/' ∉ text) :
    piecesFrom piece text = [String.ofList (piece.reverse ++ text)] := by
  induction text generalizing piece with
  | nil => rw [piecesFrom, List.append_nil]
  | cons c text ih =>
      rw [List.mem_cons, not_or] at h
      obtain ⟨hslash, htext⟩ := h
      rw [piecesFrom, ih _ htext, List.reverse_cons, List.append_assoc,
        List.singleton_append]
      exact Ne.symm hslash

theorem pieces_append_slash (first second : String) :
    pieces (first ++ "/" ++ second) = pieces first ++ pieces second := by
  have htext : (first ++ "/" ++ second).toList =
      first.toList ++ '/' :: second.toList := by simp
  rw [pieces, htext, piecesFrom_append_slash, pieces, pieces]

theorem piecesFrom_ne_nil (piece text : List Char) :
    piecesFrom piece text ≠ [] := by
  fun_induction piecesFrom piece text with
  | case1 => exact List.cons_ne_nil _ _
  | case2 => exact List.cons_ne_nil _ _
  | case3 _ _ _ _ ih => exact ih

/-- Only the empty path has one empty piece and no more. -/
theorem eq_empty_of_pieces {path : String} (h : pieces path = [""]) :
    path = "" := by
  by_cases hslash : '/' ∈ path.toList
  · obtain ⟨first, second, hpath⟩ := List.append_of_mem hslash
    rw [pieces, hpath, piecesFrom_append_slash] at h
    have hfirst := List.length_pos_of_ne_nil (piecesFrom_ne_nil [] first)
    have hsecond := List.length_pos_of_ne_nil (piecesFrom_ne_nil [] second)
    have hlength := congrArg List.length h
    rw [List.length_append, List.length_singleton] at hlength
    omega
  · rw [pieces, piecesFrom_of_no_slash [] hslash, List.reverse_nil,
      List.nil_append, String.ofList_toList] at h
    exact (List.cons.inj h).1

theorem pieces_of_isName {name : String} (h : IsName name) :
    pieces name = [name] := by
  rw [pieces, piecesFrom_of_no_slash [] h.no_slash, List.reverse_nil,
    List.nil_append, String.ofList_toList]

/-! ## Joining a name -/

section Join

variable {base name : String}

theorem isAbsolute_of_isName (h : IsName name) : isAbsolute name = false := by
  rw [isAbsolute, beq_eq_false_iff_ne]
  intro hhead
  exact h.no_slash (List.mem_of_head? hhead)

/-- What joining a name comes to: a slash is put in between, unless there is one
already. -/
theorem join_eq (hbase : base ≠ "") (h : IsName name) :
    join base name =
      if endsInSlash base then base ++ name else base ++ "/" ++ name := by
  have hfirst : (isAbsolute name || base.isEmpty) = false := by
    rw [isAbsolute_of_isName h, Bool.false_or, String.isEmpty_eq_false_iff]
    exact hbase
  rw [join, hfirst, if_neg Bool.false_ne_true, endsInSlash]

/-- A joined path can be written with a slash in front of the name, where the
path in front of that slash may have lost its own. -/
theorem exists_join_eq (hbase : base ≠ "") (h : IsName name) :
    ∃ front, join base name = front ++ "/" ++ name ∧
      (base = front ∨ base = front ++ "/" ++ "") := by
  rw [join_eq hbase h]
  split
  next hslash =>
    rw [endsInSlash, beq_iff_eq, List.getLast?_eq_some_iff] at hslash
    obtain ⟨front, hfront⟩ := hslash
    have hbaseText : base = String.ofList front ++ "/" ++ "" := by
      rw [← String.toList_inj, hfront]
      simp
    refine ⟨String.ofList front, ?_, Or.inr hbaseText⟩
    rw [hbaseText, String.append_empty]
  next => exact ⟨base, rfl, Or.inl rfl⟩

theorem steps_join (hbase : base ≠ "") (h : IsName name) :
    steps (join base name) = steps base ++ [name] := by
  obtain ⟨front, hjoin, hfront⟩ := exists_join_eq hbase h
  have hsteps : steps base = steps front := by
    rcases hfront with rfl | rfl
    · rfl
    · rw [steps, steps, pieces_append_slash, List.filter_append]
      simp [pieces, piecesFrom]
  have hkept : [name].filter (· != "") = [name] := by
    simp [h.ne_empty]
  rw [hjoin, steps, pieces_append_slash, pieces_of_isName h,
    List.filter_append, hkept, ← steps, hsteps]

theorem isAbsolute_join (hbase : base ≠ "") (h : IsName name) :
    isAbsolute (join base name) = isAbsolute base := by
  obtain ⟨c, text, htext⟩ : ∃ c text, base.toList = c :: text :=
    List.exists_cons_of_ne_nil fun hnil =>
      hbase (String.toList_eq_nil_iff.1 hnil)
  rw [join_eq hbase h]
  split
  next => simp [isAbsolute, htext]
  next => simp [isAbsolute, htext]

/-- A joined path ends as the name does, so it does not end in a slash. -/
theorem endsInSlash_join (hbase : base ≠ "") (h : IsName name) :
    endsInSlash (join base name) = false := by
  obtain ⟨front, hjoin, _⟩ := exists_join_eq hbase h
  rw [hjoin, endsInSlash, beq_eq_false_iff_ne, String.toList_append,
    List.getLast?_append]
  cases hlast : name.toList.getLast? with
  | none =>
      rw [List.getLast?_eq_none_iff, String.toList_eq_nil_iff] at hlast
      exact absurd hlast h.ne_empty
  | some c =>
      rw [Option.some_or]
      intro heq
      have hmem := List.mem_of_getLast? hlast
      rw [Option.some.inj heq] at hmem
      exact h.no_slash hmem

theorem join_ne_empty (hbase : base ≠ "") (h : IsName name) :
    join base name ≠ "" := by
  obtain ⟨front, hjoin, _⟩ := exists_join_eq hbase h
  rw [hjoin]
  intro hempty
  have hlength := congrArg String.length hempty
  simp at hlength

/-! ## Components of a joined path -/

/-- The component for the first piece of a path that is not empty. -/
def Component.ofFirst (piece : String) : Component :=
  if piece = "" then .root else if piece = "." then .current else .ofPiece piece

theorem components_of_pieces {path first : String} {rest : List String}
    (hpath : path ≠ "") (h : pieces path = first :: rest) :
    components path = .ofFirst first :: componentsOfPieces rest := by
  by_cases hempty : first = ""
  · subst hempty
    have hrest : rest ≠ [] := by
      rintro rfl
      exact hpath (eq_empty_of_pieces h)
    simp [components, h, hrest, Component.ofFirst]
  · by_cases hcurrent : first = "."
    · subst hcurrent
      simp [components, h, Component.ofFirst]
    · simp [components, h, Component.ofFirst, componentsOfPieces, hempty,
        hcurrent]

theorem componentsOfPieces_append (first second : List String) :
    componentsOfPieces (first ++ second) =
      componentsOfPieces first ++ componentsOfPieces second := by
  rw [componentsOfPieces, List.filter_append, List.map_append,
    ← componentsOfPieces, ← componentsOfPieces]

theorem components_join (hbase : base ≠ "") (h : IsName name) :
    components (join base name) = components base ++ [.name name] := by
  have hname : componentsOfPieces [name] = [.name name] := by
    simp [componentsOfPieces, Component.ofPiece, h.ne_empty, h.ne_current,
      h.ne_parent]
  have hempty : componentsOfPieces [""] = [] := by
    simp [componentsOfPieces]
  have hjoined := join_ne_empty hbase h
  obtain ⟨front, hjoin, hfront⟩ := exists_join_eq hbase h
  obtain ⟨first, rest, hpieces⟩ : ∃ first rest, pieces front = first :: rest :=
    List.exists_cons_of_ne_nil (piecesFrom_ne_nil [] front.toList)
  have hjoinPieces : pieces (join base name) = first :: (rest ++ [name]) := by
    rw [hjoin, pieces_append_slash, pieces_of_isName h, hpieces,
      List.cons_append]
  rw [components_of_pieces hjoined hjoinPieces, componentsOfPieces_append,
    hname]
  rcases hfront with rfl | rfl
  · rw [components_of_pieces hbase hpieces, List.cons_append]
  · have hbasePieces : pieces (front ++ "/" ++ "") = first :: (rest ++ [""]) := by
      rw [pieces_append_slash, hpieces]
      rfl
    rw [components_of_pieces hbase hbasePieces, componentsOfPieces_append,
      hempty, List.append_nil, List.cons_append]

end Join

/-! ## Joining several names -/

/-- A path, joined with one name after the other. -/
def joinAll (base : String) (names : List String) : String :=
  names.foldl join base

section JoinAll

variable {base : String} {names : List String}

theorem joinAll_ne_empty (hbase : base ≠ "") (h : ∀ name ∈ names, IsName name) :
    joinAll base names ≠ "" := by
  induction names generalizing base with
  | nil => exact hbase
  | cons name names ih =>
      obtain ⟨hname, hnames⟩ := List.forall_mem_cons.1 h
      exact ih (join_ne_empty hbase hname) hnames

theorem steps_joinAll (hbase : base ≠ "") (h : ∀ name ∈ names, IsName name) :
    steps (joinAll base names) = steps base ++ names := by
  induction names generalizing base with
  | nil => exact (List.append_nil _).symm
  | cons name names ih =>
      obtain ⟨hname, hnames⟩ := List.forall_mem_cons.1 h
      rw [joinAll, List.foldl_cons, ← joinAll,
        ih (join_ne_empty hbase hname) hnames, steps_join hbase hname,
        List.append_assoc, List.singleton_append]

theorem isAbsolute_joinAll (hbase : base ≠ "")
    (h : ∀ name ∈ names, IsName name) :
    isAbsolute (joinAll base names) = isAbsolute base := by
  induction names generalizing base with
  | nil => rfl
  | cons name names ih =>
      obtain ⟨hname, hnames⟩ := List.forall_mem_cons.1 h
      rw [joinAll, List.foldl_cons, ← joinAll,
        ih (join_ne_empty hbase hname) hnames, isAbsolute_join hbase hname]

theorem endsInSlash_joinAll (hbase : base ≠ "")
    (h : ∀ name ∈ names, IsName name) (hne : names ≠ []) :
    endsInSlash (joinAll base names) = false := by
  obtain ⟨before, name, rfl⟩ := (List.eq_nil_or_concat' names).resolve_left hne
  obtain ⟨hbefore, hname⟩ := List.forall_mem_append.1 h
  rw [joinAll, List.foldl_append, ← joinAll]
  exact endsInSlash_join (joinAll_ne_empty hbase hbefore)
    (hname name List.mem_cons_self)

theorem components_joinAll (hbase : base ≠ "")
    (h : ∀ name ∈ names, IsName name) :
    components (joinAll base names) =
      components base ++ names.map Component.name := by
  induction names generalizing base with
  | nil => exact (List.append_nil _).symm
  | cons name names ih =>
      obtain ⟨hname, hnames⟩ := List.forall_mem_cons.1 h
      rw [joinAll, List.foldl_cons, ← joinAll,
        ih (join_ne_empty hbase hname) hnames, components_join hbase hname,
        List.append_assoc, List.singleton_append, List.map_cons]

/-- The components of the path tell the names. -/
theorem names_eq_of_components {names' : List String} (hbase : base ≠ "")
    (h : ∀ name ∈ names, IsName name) (h' : ∀ name ∈ names', IsName name)
    (heq : components (joinAll base names) = components (joinAll base names')) :
    names = names' := by
  rw [components_joinAll hbase h, components_joinAll hbase h'] at heq
  have hinjective : Function.Injective Component.name :=
    fun _ _ hname => Component.name.inj hname
  exact hinjective.list_map (List.append_cancel_left heq)

end JoinAll

end JavaSurvey.Files
