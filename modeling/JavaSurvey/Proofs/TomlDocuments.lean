import JavaSurvey.Proofs.TomlScalars

/-!
# Documents read back

A document that is written section by section is read as a table of tables: one
for each section, in their order, with the values that stand in its lines. The
names of sections and of keys within a section must be plain and all different.
The reader goes from line to line, and each line changes the document in one way:
a header opens a table, a key adds a value to it, an empty line does nothing.

## Main results

* `readLine?_header`, `readLine?_entry`, `readLine?_empty`: the three lines.
* `advances_section`: a section adds its table.
* `read?_sections`: a document is read as its sections.
-/

namespace JavaSurvey.Toml

/-! ## Tables -/

section Tables

variable {front : Table} {key : String} (hkey : key ∉ front.map Prod.fst)

include hkey

/-- Entries of other keys in front do not matter for a look-up. -/
theorem Table.get?_append (rest : Table) :
    Table.get? (front ++ rest) key = Table.get? rest key := by
  induction front with
  | nil => rfl
  | cons entry front ih =>
      rw [List.map_cons, List.mem_cons, not_or] at hkey
      have hentry : (key == entry.1) = false := by simpa using hkey.1
      rw [Table.get?, List.cons_append, List.lookup_cons, hentry]
      exact ih hkey.2

/-- Entries of other keys in front stay when a key is set. -/
theorem Table.set_append (rest : Table) (value : Value) :
    Table.set (front ++ rest) key value = front ++ Table.set rest key value := by
  induction front with
  | nil => rfl
  | cons entry front ih =>
      rw [List.map_cons, List.mem_cons, not_or] at hkey
      have hentry : (entry.1 == key) = false := by simpa using Ne.symm hkey.1
      rw [List.cons_append, Table.set, hentry, ih hkey.2]
      rfl

theorem Table.get?_of_not_mem : front.get? key = none := by
  have hget := Table.get?_append hkey []
  rw [List.append_nil] at hget
  exact hget

theorem Table.set_of_not_mem (value : Value) :
    front.set key value = front ++ [(key, value)] := by
  have hset := Table.set_append hkey [] value
  rw [List.append_nil] at hset
  exact hset

/-- A header opens a new table at the end of the document. -/
theorem enter_of_not_mem (current : List String) :
    Document.enter ⟨front, current⟩ false [] key =
      some ⟨front ++ [(key, .table .header [])], [key]⟩ := by
  have hopen : Table.openTable key front = some (front ++ [(key, .table .header [])]) := by
    rw [Table.openTable, Table.get?_of_not_mem hkey, Table.set_of_not_mem hkey]
  simp only [Document.enter, Table.updateAt, hopen, Bool.false_eq_true, if_false]
  rfl

/-- A new key is added at the end of the table at the end of the document. -/
theorem insert_of_not_mem {entries : Table} {name : String}
    (hname : name ∉ entries.map Prod.fst) (value : Value) :
    Document.insert ⟨front ++ [(key, .table .header entries)], [key]⟩ [] name value =
      some ⟨front ++ [(key, .table .header (entries ++ [(name, value)]))], [key]⟩ := by
  have hget : Table.get? (front ++ [(key, .table .header entries)]) key =
      some (.table .header entries) := by
    rw [Table.get?_append hkey]
    simp [Table.get?]
  have hset : ∀ changed : Table,
      Table.set (front ++ [(key, .table .header entries)]) key (.table .header changed) =
        front ++ [(key, .table .header changed)] := by
    intro changed
    rw [Table.set_append hkey]
    simp [Table.set]
  have hinsert : Table.insert [] name value .header entries =
      some (entries ++ [(name, value)]) := by
    simp [Table.insert, Table.updateAt, Table.get?_of_not_mem hname]
  simp only [Document.insert, Table.updateAt, hget, hinsert, hset]
  rfl

end Tables

/-! ## Lines -/

/-- A key that needs no quotes. -/
def IsBare (key : String) : Prop :=
  key.toList ≠ [] ∧ key.toList.all isBareKeyChar = true

instance (key : String) : Decidable (IsBare key) :=
  inferInstanceAs (Decidable (_ ∧ _))

theorem IsBare.of_mem {key : String} (h : IsBare key) :
    ∀ c ∈ key.toList, isBareKeyChar c = true :=
  List.all_eq_true.1 h.2

theorem IsBare.exists_head {key : String} (h : IsBare key) :
    ∃ c tail, key.toList = c :: tail ∧ ∀ d, isBareKeyChar d = false → c ≠ d := by
  obtain ⟨c, tail, heq⟩ := List.exists_cons_of_ne_nil h.1
  have hc : isBareKeyChar c = true :=
    h.of_mem c (by rw [heq]; exact List.mem_cons_self)
  exact ⟨c, tail, heq, fun d hd => ne_of_class hc hd⟩

/-- A key without quotes is read up to the first character that cannot be in it. -/
theorem readKey?_of_isBare {key : String} (h : IsBare key) {rest after : List Char}
    {c : Char} (hstop : Stops isBareKeyChar rest) (hrest : skipSpaces rest = c :: after)
    (hc : c ≠ '.') (parts : Nat) :
    readKey? (parts + 1) (key.toList ++ rest) = some ([], key, c :: after) := by
  obtain ⟨first, tail, hkey, hfirst⟩ := h.exists_head
  have hpart : readKeyPart? (key.toList ++ rest) = some (key, rest) := by
    have hspan : (key.toList ++ rest).span isBareKeyChar = (key.toList, rest) :=
      span_of_stops h.of_mem hstop
    have hempty : key.toList.isEmpty = false := by simpa using h.1
    have hquote : ∀ quote more, isBareKeyChar quote = false →
        key.toList ++ rest ≠ quote :: more := by
      intro quote more hquote heq
      rw [hkey, List.cons_append, List.cons.injEq] at heq
      exact hfirst quote hquote heq.1
    rw [readKeyPart?]
    · simp only [hspan, hempty, Bool.false_eq_true, if_false, String.ofList_toList]
    · exact fun more => hquote '"' more rfl
    · exact fun more => hquote '\'' more rfl
  rw [readKey?, hpart]
  simp only [hrest]
  split
  next heq =>
    rw [List.cons.injEq] at heq
    exact absurd heq.1 hc
  next => rfl

theorem skipSpaces_of_head {c : Char} (hc : isSpace c = false) (tail : List Char) :
    skipSpaces (c :: tail) = c :: tail := by
  rw [skipSpaces, List.dropWhile_cons_of_neg (by simp [hc])]

/-- An empty line changes nothing. -/
theorem readLine?_empty (document : Document) (rest : List Char) :
    readLine? document ('\n' :: rest) = some (document, rest) :=
  rfl

/-- A header opens the table that it names. -/
theorem readLine?_header {name : String} (h : IsBare name) {document next : Document}
    (hnext : document.enter false [] name = some next) (rest : List Char) :
    readLine? document (("[" ++ name ++ "]\n").toList ++ rest) = some (next, rest) := by
  obtain ⟨first, tail, hname, hfirst⟩ := h.exists_head
  have hchars : ("[" ++ name ++ "]\n").toList ++ rest =
      '[' :: (name.toList ++ ']' :: '\n' :: rest) := by
    simp
  have hkey : readKey? maxNesting (name.toList ++ ']' :: '\n' :: rest) =
      some ([], name, ']' :: '\n' :: rest) :=
    readKey?_of_isBare h (stops_cons rfl _) (skipSpaces_of_head rfl _) (by decide) 78
  have hspaces : skipSpaces (name.toList ++ ']' :: '\n' :: rest) =
      name.toList ++ ']' :: '\n' :: rest := by
    rw [hname, List.cons_append]
    refine skipSpaces_of_head ?_ _
    simp [isSpace, hfirst ' ' rfl, hfirst '\t' rfl]
  have hheader : readHeader? false document (name.toList ++ ']' :: '\n' :: rest) =
      some (next, '\n' :: rest) := by
    simp only [readHeader?, hspaces, hkey, hnext, Option.bind_eq_bind, Option.bind_some]
  rw [hchars, readLine?, skipSpaces_of_head rfl]
  split
  next heq =>
    rw [hname, List.cons_append, List.cons.injEq, List.cons.injEq] at heq
    exact absurd heq.2.1 (hfirst '[' rfl)
  next heq =>
    rw [List.cons.injEq] at heq
    rw [← heq.2, hheader]
    rfl
  next heq => cases heq
  next hsingle heq =>
    rw [List.cons.injEq] at heq
    exact absurd heq.1.symm hsingle

/-- A line with a key adds its value to the current table. -/
theorem readLine?_entry {key text : String} {value : Value} (h : IsBare key)
    (hvalue : ReadsAs text value) {document next : Document}
    (hnext : document.insert [] key value = some next) (rest : List Char) :
    readLine? document ((key ++ " = " ++ text ++ "\n").toList ++ rest) =
      some (next, rest) := by
  obtain ⟨first, tail, hkey, hfirst⟩ := h.exists_head
  have hchars : (key ++ " = " ++ text ++ "\n").toList ++ rest =
      key.toList ++ ' ' :: '=' :: ' ' :: (text.toList ++ '\n' :: rest) := by
    simp
  have hread : readKey? maxNesting
      (key.toList ++ ' ' :: '=' :: ' ' :: (text.toList ++ '\n' :: rest)) =
      some ([], key, '=' :: ' ' :: (text.toList ++ '\n' :: rest)) :=
    readKey?_of_isBare h (stops_cons rfl _) rfl (by decide) 78
  have hentry : readEntry? document
      (key.toList ++ ' ' :: '=' :: ' ' :: (text.toList ++ '\n' :: rest)) =
      some (next, '\n' :: rest) := by
    simp only [ readEntry?, hread, Option.bind_eq_bind, Option.bind_some]
    rw [hvalue _ _ rest, Option.bind_some, hnext]
    rfl
  have hspace : isSpace first = false := by
    simp [isSpace, hfirst ' ' rfl, hfirst '\t' rfl]
  have hother : (first == '#' || first == '\n' || first == '\r') = false := by
    simp [hfirst '#' rfl, hfirst '\n' rfl, hfirst '\r' rfl]
  rw [hkey, List.cons_append] at hchars hentry
  rw [hchars, readLine?, skipSpaces_of_head hspace]
  split
  next heq =>
    rw [List.cons.injEq] at heq
    exact absurd heq.1 (hfirst '[' rfl)
  next heq =>
    rw [List.cons.injEq] at heq
    exact absurd heq.1 (hfirst '[' rfl)
  next heq => cases heq
  next heq =>
    cases heq
    rw [hother, hentry]
    rfl

/-! ## Line after line -/

/-- Lines that lead from one document to another, whatever follows them. What is
left of the bound on the number of lines suffices for the rest. -/
def Advances (text : List Char) (document next : Document) : Prop :=
  ∀ bound rest, (text ++ rest).length ≤ bound → ∃ left, rest.length ≤ left ∧
    readLines? bound document (text ++ rest) = readLines? left next rest

theorem advances_nil (document : Document) : Advances [] document document :=
  fun bound _ hbound => ⟨bound, hbound, rfl⟩

theorem Advances.append {first second : List Char} {document middle next : Document}
    (hfirst : Advances first document middle) (hsecond : Advances second middle next) :
    Advances (first ++ second) document next := by
  intro bound rest hbound
  rw [List.append_assoc] at hbound ⊢
  obtain ⟨left, hleft, hread⟩ := hfirst bound (second ++ rest) hbound
  obtain ⟨least, hleast, hrest⟩ := hsecond left rest hleft
  exact ⟨least, hleast, hread.trans hrest⟩

theorem advances_of_readLine? {text : List Char} (hne : text ≠ [])
    {document next : Document}
    (hline : ∀ rest, readLine? document (text ++ rest) = some (next, rest)) :
    Advances text document next := by
  intro bound rest hbound
  obtain ⟨c, tail, heq⟩ := List.exists_cons_of_ne_nil hne
  have hread := hline rest
  rw [heq, List.cons_append, List.length_cons, List.length_append] at hbound
  rw [heq, List.cons_append] at hread ⊢
  obtain ⟨left, hleft⟩ : ∃ left, bound = left + 1 := ⟨bound - 1, by omega⟩
  subst hleft
  refine ⟨left, by omega, ?_⟩
  rw [readLines?, hread]
  simp

/-! ## Sections -/

/-- A line of a section: a key, what is written for it, and the value that this is
read as. -/
structure Line where
  key : String
  text : String
  value : Value
  isBare : IsBare key
  readsAs : ReadsAs text value

/-- A name, and lines with different keys. -/
structure Section where
  name : String
  lines : List Line
  isBare : IsBare name
  nodup : (lines.map Line.key).Nodup

/-- What is written for a line. -/
def Line.written (line : Line) : String :=
  line.key ++ " = " ++ line.text ++ "\n"

/-- What is written for a section. -/
def Section.text (part : Section) : String :=
  sectionText part.name (part.lines.map fun line => (line.key, line.text))

/-- What lines add to a table. -/
def entriesOf (lines : List Line) : Table :=
  lines.map fun line => (line.key, line.value)

/-- What a section adds to a document. -/
def Section.entry (part : Section) : String × Value :=
  (part.name, .table .header (entriesOf part.lines))

theorem Section.text_eq (part : Section) :
    part.text = "[" ++ part.name ++ "]\n" ++ String.join (part.lines.map Line.written) := by
  rw [Section.text, sectionText, List.map_map]
  rfl

/-- Lines add their values to the table at the end of a document. The induction is
on the lines, with the entries that are in the table already. -/
theorem advances_lines {front : Table} {name : String} (hname : name ∉ front.map Prod.fst)
    (entries : Table) (lines : List Line)
    (hnodup : (entries.map Prod.fst ++ lines.map Line.key).Nodup) :
    Advances (String.join (lines.map Line.written)).toList
      ⟨front ++ [(name, .table .header entries)], [name]⟩
      ⟨front ++ [(name, .table .header (entries ++ entriesOf lines))], [name]⟩ := by
  induction lines generalizing entries with
  | nil =>
      have hentries : entries ++ entriesOf [] = entries := List.append_nil entries
      rw [hentries]
      exact advances_nil _
  | cons line rest ih =>
      have hkey : line.key ∉ entries.map Prod.fst := by
        rw [List.map_cons, List.nodup_append] at hnodup
        exact fun hmem => hnodup.2.2 line.key hmem line.key List.mem_cons_self rfl
      have hline : Advances line.written.toList
          ⟨front ++ [(name, .table .header entries)], [name]⟩
          ⟨front ++ [(name, .table .header (entries ++ [(line.key, line.value)]))], [name]⟩ :=
        advances_of_readLine? (by simp [Line.written]) fun rest =>
          readLine?_entry line.isBare line.readsAs
            (insert_of_not_mem hname hkey line.value) rest
      have hrest := ih (entries ++ [(line.key, line.value)]) (by simpa using hnodup)
      have hentries : entries ++ [(line.key, line.value)] ++ entriesOf rest =
          entries ++ entriesOf (line :: rest) := by
        rw [List.append_assoc]
        rfl
      rw [hentries] at hrest
      rw [List.map_cons, String.join_cons, String.toList_append]
      exact hline.append hrest

/-- A section adds its table to a document that has none of its name. -/
theorem advances_section (part : Section) {front : Table}
    (hname : part.name ∉ front.map Prod.fst) (current : List String) :
    Advances part.text.toList ⟨front, current⟩ ⟨front ++ [part.entry], [part.name]⟩ := by
  have hheader : Advances ("[" ++ part.name ++ "]\n").toList ⟨front, current⟩
      ⟨front ++ [(part.name, .table .header [])], [part.name]⟩ :=
    advances_of_readLine? (by simp) fun rest =>
      readLine?_header part.isBare (enter_of_not_mem hname current) rest
  have hlines := advances_lines hname [] part.lines part.nodup
  rw [Section.text_eq, String.toList_append]
  exact hheader.append hlines

/-- Sections with empty lines between them add their tables. -/
theorem advances_sections (parts : List Section) {front : Table} (current : List String)
    (hnodup : (front.map Prod.fst ++ parts.map Section.name).Nodup) :
    ∃ last, Advances ("\n".intercalate (parts.map Section.text)).toList ⟨front, current⟩
      ⟨front ++ parts.map Section.entry, last⟩ := by
  induction parts generalizing front current with
  | nil =>
      refine ⟨current, ?_⟩
      rw [List.map_nil, List.map_nil, List.append_nil, String.intercalate_nil]
      exact advances_nil _
  | cons part rest ih =>
      have hname : part.name ∉ front.map Prod.fst := by
        rw [List.map_cons, List.nodup_append] at hnodup
        exact fun hmem => hnodup.2.2 part.name hmem part.name List.mem_cons_self rfl
      have hpart := advances_section part hname current
      cases rest with
      | nil => exact ⟨[part.name], by simpa using hpart⟩
      | cons next rest =>
          have hlater : ((front ++ [part.entry]).map Prod.fst ++
              (next :: rest).map Section.name).Nodup := by
            simpa [Section.entry] using hnodup
          obtain ⟨last, hrest⟩ := ih [part.name] hlater
          have hempty : Advances "\n".toList ⟨front ++ [part.entry], [part.name]⟩
              ⟨front ++ [part.entry], [part.name]⟩ :=
            advances_of_readLine? (by decide) fun rest => readLine?_empty _ rest
          refine ⟨last, ?_⟩
          rw [List.map_cons, List.map_cons, String.intercalate_cons_cons, ← List.map_cons,
            String.toList_append, String.toList_append]
          rw [List.append_assoc, List.singleton_append, ← List.map_cons] at hrest
          exact (hpart.append hempty).append hrest

/-- No byte order mark stands in front of a document. -/
theorem head_sections (parts : List Section) (rest : List Char) :
    ("\n".intercalate (parts.map Section.text)).toList ≠ '\ufeff' :: rest := by
  have hsection : ∀ (part : Section) (more : String),
      ∃ tail, (part.text ++ more).toList = '[' :: tail := by
    intro part more
    exact ⟨_, by simp [Section.text, sectionText]; rfl⟩
  intro heq
  cases parts with
  | nil => simp at heq
  | cons part parts =>
      cases parts with
      | nil =>
          obtain ⟨tail, htail⟩ := hsection part ""
          rw [String.append_empty] at htail
          rw [List.map_singleton, String.intercalate_singleton, htail] at heq
          simp at heq
      | cons next parts =>
          obtain ⟨tail, htail⟩ := hsection part ("\n" ++ "\n".intercalate
            ((next :: parts).map Section.text))
          rw [List.map_cons, List.map_cons, String.intercalate_cons_cons,
            ← List.map_cons, String.append_assoc, htail] at heq
          simp at heq

/-- A document is read as the tables of its sections. -/
theorem read?_sections (parts : List Section) (hnodup : (parts.map Section.name).Nodup) :
    read? ("\n".intercalate (parts.map Section.text)) = some (parts.map Section.entry) := by
  have hnames : (([] : Table).map Prod.fst ++ parts.map Section.name).Nodup := hnodup
  obtain ⟨last, hadvances⟩ := advances_sections parts [] hnames
  obtain ⟨left, -, hread⟩ := hadvances _ [] (Nat.le_refl _)
  rw [List.append_nil, List.nil_append] at hread
  have hmark := head_sections parts
  rw [read?]
  split
  next heq => exact absurd heq (hmark _)
  next =>
    rw [hread]
    cases left <;> rfl

end JavaSurvey.Toml
