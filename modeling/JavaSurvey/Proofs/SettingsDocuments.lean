import JavaSurvey.Config.Toml
import JavaSurvey.Proofs.Collections
import JavaSurvey.Proofs.TomlDocuments

/-!
# Settings in documents

A document holds some of the fields of settings: each in the section of its
group, the sections and the fields in them in any order (`Outline`). Read as
settings, it gives the fields that it holds, and the others have their defaults
(`Settings.keep`). What is written for settings is the document of all fields.

## Main results

* `read?_document`: a document is read as the table of its fields.
* `ofTable?_table`: a table of fields is read as settings with these fields.
* `ofToml?_document`: both together.
* `toToml?_eq`: what is written for settings.
-/

namespace JavaSurvey.Config

open JavaSurvey.Toml (IsBare ReadsAs Table Value maxInteger)
open JavaSurvey.Toml (booleanText floatText naturalText? sectionText stringText)

/-! ## Fields -/

/-- The groups of fields. -/
inductive Group where
  | project
  | parsing
  | metrics
  | graph
deriving DecidableEq, Repr

/-- The fields of settings. -/
inductive Field where
  | sourceSubdir
  | fileMarker
  | maxFileSize
  | failFast
  | topPercent
  | methodThreshold
  | outputDir
  | dotFile
  | imageFile
  | renderer
  | imageFormat
  | classColor
  | methodColor
deriving DecidableEq, Repr

/-- The name of a section. -/
def Group.name : Group → String
  | .project => "project"
  | .parsing => "parsing"
  | .metrics => "metrics"
  | .graph => "graph"

/-- The group of a field. -/
def Field.group : Field → Group
  | .sourceSubdir | .fileMarker => .project
  | .maxFileSize | .failFast => .parsing
  | .topPercent | .methodThreshold => .metrics
  | .outputDir | .dotFile | .imageFile | .renderer | .imageFormat | .classColor
  | .methodColor => .graph

/-- The key of a field in its section. -/
def Field.key : Field → String
  | .sourceSubdir => "source_subdir"
  | .fileMarker => "file_marker"
  | .maxFileSize => "max_file_size"
  | .failFast => "fail_fast"
  | .topPercent => "top_percent"
  | .methodThreshold => "method_threshold"
  | .outputDir => "output_dir"
  | .dotFile => "dot_file"
  | .imageFile => "image_file"
  | .renderer => "renderer"
  | .imageFormat => "image_format"
  | .classColor => "class_color"
  | .methodColor => "method_color"

/-- All groups, in the order in which they are written. -/
def Group.all : List Group :=
  [.project, .parsing, .metrics, .graph]

/-- The fields of a group, in the order in which they are written. -/
def Group.fields : Group → List Field
  | .project => [.sourceSubdir, .fileMarker]
  | .parsing => [.maxFileSize, .failFast]
  | .metrics => [.topPercent, .methodThreshold]
  | .graph => [.outputDir, .dotFile, .imageFile, .renderer, .imageFormat, .classColor,
      .methodColor]

theorem Group.mem_all (group : Group) : group ∈ Group.all := by
  cases group <;> decide

theorem Group.nodup_fields (group : Group) : group.fields.Nodup := by
  cases group <;> decide

theorem Group.mem_fields {group : Group} {field : Field} :
    field ∈ group.fields ↔ field.group = group := by
  cases group <;> cases field <;> decide

theorem Field.mem_fields (field : Field) : field ∈ Group.all.flatMap Group.fields :=
  List.mem_flatMap_of_mem field.group.mem_all (Group.mem_fields.2 rfl)

theorem Group.name_injective : Function.Injective Group.name := by
  have hnodup : (Group.all.map Group.name).Nodup := by decide
  intro first second hname
  exact List.inj_on_of_nodup_map hnodup first.mem_all second.mem_all hname

theorem Field.key_injective : Function.Injective Field.key := by
  have hnodup : ((Group.all.flatMap Group.fields).map Field.key).Nodup := by decide
  intro first second hkey
  exact List.inj_on_of_nodup_map hnodup first.mem_fields second.mem_fields hkey

theorem Group.isBare_name (group : Group) : IsBare group.name := by
  cases group <;> decide

theorem Field.isBare_key (field : Field) : IsBare field.key := by
  cases field <;> decide

/-! ## Values -/

/-- The value of a field. -/
inductive Scalar where
  | string (text : String)
  | natural (n : Nat)
  | double (x : Float)
  | boolean (value : Bool)

/-- A value in a document. -/
def Scalar.value : Scalar → Value
  | .string text => .string text
  | .natural n => .integer n
  | .double x => .float x
  | .boolean value => .boolean value

/-- What is written for a value. -/
def Scalar.written : Scalar → String
  | .string text => stringText text
  | .natural n => String.ofList (Nat.toDigits 10 n)
  | .double x => floatText x
  | .boolean value => booleanText value

/-- What a value needs to be read back: a natural number must be an integer of the
format, and a double must be what its digits stand for. -/
def Scalar.Readable : Scalar → Prop
  | .natural n => n ≤ 2 ^ 63 - 1
  | .double x => Decimal.read? (floatText x) = some x
  | .string _ | .boolean _ => True

theorem naturalText?_eq (n : Nat) :
    naturalText? n = if n ≤ 2 ^ 63 - 1 then some (String.ofList (Nat.toDigits 10 n)) else none := by
  have hmax : maxInteger = ((2 ^ 63 - 1 : Nat) : Int) := rfl
  rw [naturalText?, hmax]
  simp only [Int.ofNat_le]

theorem Scalar.readsAs {scalar : Scalar} (h : scalar.Readable) :
    ReadsAs scalar.written scalar.value := by
  cases scalar with
  | string text => exact Toml.readsAs_string text
  | natural n => exact Toml.readsAs_natural ((naturalText?_eq n).trans (if_pos h))
  | double x => exact Toml.readsAs_float h
  | boolean value => exact Toml.readsAs_boolean value

/-- The value of a field of settings. -/
def Settings.get (settings : Settings) : Field → Scalar
  | .sourceSubdir => .string settings.project.sourceSubdir
  | .fileMarker => .string settings.project.fileMarker
  | .maxFileSize => .natural settings.parsing.maxFileSize
  | .failFast => .boolean settings.parsing.failFast
  | .topPercent => .double settings.metrics.topPercent
  | .methodThreshold => .natural settings.metrics.methodThreshold
  | .outputDir => .string settings.graph.outputDir
  | .dotFile => .string settings.graph.dotFile
  | .imageFile => .string settings.graph.imageFile
  | .renderer => .string settings.graph.renderer
  | .imageFormat => .string settings.graph.imageFormat
  | .classColor => .string settings.graph.classColor
  | .methodColor => .string settings.graph.methodColor

/-! ## Documents -/

/-- Which fields a document holds: sections with fields of their groups, none of
them twice. -/
structure Outline where
  parts : List (Group × List Field)
  groups_nodup : (parts.map Prod.fst).Nodup
  fields_nodup : ∀ part ∈ parts, part.2.Nodup
  group_eq : ∀ part ∈ parts, ∀ field ∈ part.2, field.group = part.1

/-- The fields that a document holds. -/
def Outline.fields (outline : Outline) : List Field :=
  outline.parts.flatMap Prod.snd

/-- A section with fields of settings. -/
def Settings.part (settings : Settings) (part : Group × List Field) : String :=
  sectionText part.1.name
    (part.2.map fun field => (field.key, (settings.get field).written))

/-- A document with fields of settings. -/
def Settings.document (settings : Settings) (outline : Outline) : String :=
  "\n".intercalate (outline.parts.map settings.part)

/-- The entries for fields of settings. -/
def Settings.entries (settings : Settings) (fields : List Field) : Table :=
  fields.map fun field => (field.key, (settings.get field).value)

/-- The table for fields of settings. -/
def Settings.table (settings : Settings) (outline : Outline) : Table :=
  outline.parts.map fun part => (part.1.name, .table .header (settings.entries part.2))

/-- The line for a field. -/
def Settings.line (settings : Settings) (field : Field)
    (h : (settings.get field).Readable) : Toml.Line where
  key := field.key
  text := (settings.get field).written
  value := (settings.get field).value
  isBare := field.isBare_key
  readsAs := Scalar.readsAs h

/-- The section for fields of a group. -/
def Settings.sectionOf (settings : Settings) (part : Group × List Field)
    (hnodup : part.2.Nodup) (h : ∀ field ∈ part.2, (settings.get field).Readable) :
    Toml.Section where
  name := part.1.name
  lines := part.2.pmap settings.line h
  isBare := part.1.isBare_name
  nodup := by
    have hkeys : (part.2.pmap settings.line h).map Toml.Line.key = part.2.map Field.key := by
      simp [List.map_pmap, Settings.line]
    rw [hkeys]
    exact hnodup.map Field.key_injective

/-- A document is read as the table of its fields. -/
theorem read?_document {settings : Settings} {outline : Outline}
    (h : ∀ field ∈ outline.fields, (settings.get field).Readable) :
    Toml.read? (settings.document outline) = some (settings.table outline) := by
  have hpart : ∀ part ∈ outline.parts,
      part.2.Nodup ∧ ∀ field ∈ part.2, (settings.get field).Readable := by
    intro part hpart
    refine ⟨outline.fields_nodup part hpart, fun field hfield => h field ?_⟩
    exact List.mem_flatMap_of_mem hpart hfield
  let sections : List Toml.Section :=
    outline.parts.pmap (fun part hpart => settings.sectionOf part hpart.1 hpart.2) hpart
  have hnames : sections.map Toml.Section.name = (outline.parts.map Prod.fst).map Group.name := by
    simp [sections, List.map_pmap, Settings.sectionOf]
  have htexts : sections.map Toml.Section.text = outline.parts.map settings.part := by
    simp [sections, List.map_pmap, Settings.sectionOf, Settings.line, Toml.Section.text,
      Settings.part]
  have hentries : sections.map Toml.Section.entry = settings.table outline := by
    simp [sections, List.map_pmap, Settings.sectionOf, Settings.line, Toml.Section.entry,
      Toml.entriesOf, Settings.table, Settings.entries]
  have hread := Toml.read?_sections sections
    (hnames ▸ outline.groups_nodup.map Group.name_injective)
  rw [htexts, hentries] at hread
  exact hread

/-! ## Reading -/

/-- A field's own value if it is among some fields, and else its default. -/
def pick {α : Type} (fields : List Field) (field : Field) (own default : α) : α :=
  if field ∈ fields then own else default

/-- Settings with the given fields; the others have their defaults. -/
def Settings.keep (settings : Settings) (fields : List Field) : Settings :=
  let default : Settings := {}
  { project :=
      { sourceSubdir :=
          pick fields .sourceSubdir settings.project.sourceSubdir default.project.sourceSubdir
        fileMarker :=
          pick fields .fileMarker settings.project.fileMarker default.project.fileMarker }
    parsing :=
      { maxFileSize :=
          pick fields .maxFileSize settings.parsing.maxFileSize default.parsing.maxFileSize
        failFast := pick fields .failFast settings.parsing.failFast default.parsing.failFast }
    metrics :=
      { topPercent :=
          pick fields .topPercent settings.metrics.topPercent default.metrics.topPercent
        methodThreshold :=
          pick fields .methodThreshold settings.metrics.methodThreshold
            default.metrics.methodThreshold }
    graph :=
      { outputDir := pick fields .outputDir settings.graph.outputDir default.graph.outputDir
        dotFile := pick fields .dotFile settings.graph.dotFile default.graph.dotFile
        imageFile := pick fields .imageFile settings.graph.imageFile default.graph.imageFile
        renderer := pick fields .renderer settings.graph.renderer default.graph.renderer
        imageFormat :=
          pick fields .imageFormat settings.graph.imageFormat default.graph.imageFormat
        classColor := pick fields .classColor settings.graph.classColor default.graph.classColor
        methodColor :=
          pick fields .methodColor settings.graph.methodColor default.graph.methodColor } }

/-- A table has those fields of a group that are among some fields. -/
def Settings.Holds (settings : Settings) (fields : List Field) (group : Group)
    (entries : Table) : Prop :=
  ∀ field, field.group = group → Table.get? entries field.key =
    if field ∈ fields then some (settings.get field).value else none

section Groups

variable {settings : Settings} {fields : List Field} {entries : Table}

/-- A field is read as its value, or as its default if it is missing, and then the
next field is read. -/
theorem bind_orDefault {α β : Type} {read : Value → Option α} {own default : α}
    {next : α → Option β} {result : β} (field : Field)
    (h : settings.Holds fields field.group entries)
    (hread : read (settings.get field).value = some own)
    (hnext : next (pick fields field own default) = some result) :
    (orDefault read default (Table.get? entries field.key)).bind next = some result := by
  have hfield : orDefault read default (Table.get? entries field.key) =
      some (pick fields field own default) := by
    rw [h field rfl, pick]
    split
    · exact hread
    · rfl
  rw [hfield, Option.bind_some, hnext]

theorem project_ofToml?_of_holds (h : settings.Holds fields .project entries)
    (origin : Toml.Origin) :
    ProjectSettings.ofToml? (.table origin entries) = some (settings.keep fields).project := by
  refine bind_orDefault .sourceSubdir h (by rfl) ?_
  refine bind_orDefault .fileMarker h (by rfl) ?_
  rfl

theorem parsing_ofToml?_of_holds (h : settings.Holds fields .parsing entries)
    (origin : Toml.Origin) :
    ParsingSettings.ofToml? (.table origin entries) = some (settings.keep fields).parsing := by
  refine bind_orDefault .maxFileSize h (by rfl) ?_
  refine bind_orDefault .failFast h (by rfl) ?_
  rfl

theorem metrics_ofToml?_of_holds (h : settings.Holds fields .metrics entries)
    (origin : Toml.Origin) :
    MetricsSettings.ofToml? (.table origin entries) = some (settings.keep fields).metrics := by
  refine bind_orDefault .topPercent h (by rfl) ?_
  refine bind_orDefault .methodThreshold h (by rfl) ?_
  rfl

theorem graph_ofToml?_of_holds (h : settings.Holds fields .graph entries)
    (origin : Toml.Origin) :
    GraphSettings.ofToml? (.table origin entries) = some (settings.keep fields).graph := by
  refine bind_orDefault .outputDir h (by rfl) ?_
  refine bind_orDefault .dotFile h (by rfl) ?_
  refine bind_orDefault .imageFile h (by rfl) ?_
  refine bind_orDefault .renderer h (by rfl) ?_
  refine bind_orDefault .imageFormat h (by rfl) ?_
  refine bind_orDefault .classColor h (by rfl) ?_
  refine bind_orDefault .methodColor h (by rfl) ?_
  rfl

end Groups

/-! ## Tables -/

theorem get?_entries (settings : Settings) (fields : List Field) (field : Field) :
    Table.get? (settings.entries fields) field.key =
      if field ∈ fields then some (settings.get field).value else none := by
  unfold Settings.entries Table.get?
  induction fields with
  | nil => rfl
  | cons first rest ih =>
      rw [List.map_cons, List.lookup_cons]
      by_cases hfirst : field = first
      · simp [hfirst]
      · have hkey : (field.key == first.key) = false :=
          beq_false_of_ne fun hkey => hfirst (Field.key_injective hkey)
        rw [hkey]
        simp [hfirst, ih]

theorem get?_table (settings : Settings) (outline : Outline) (group : Group) :
    Table.get? (settings.table outline) group.name =
      (outline.parts.lookup group).map fun fields => .table .header (settings.entries fields) := by
  unfold Settings.table Table.get?
  induction outline.parts with
  | nil => rfl
  | cons part parts ih =>
      rw [List.map_cons, List.lookup_cons, List.lookup_cons]
      by_cases hpart : group = part.1
      · rw [hpart, beq_self_eq_true, beq_self_eq_true]
        rfl
      · have hname : (group.name == part.1.name) = false :=
          beq_false_of_ne fun hname => hpart (Group.name_injective hname)
        rw [hname, beq_false_of_ne hpart]
        exact ih

/-- The fields that a document holds in the section of a group. -/
def Outline.held (outline : Outline) (group : Group) : List Field :=
  (outline.parts.lookup group).getD []

theorem Outline.mem_held (outline : Outline) {group : Group} {field : Field}
    (hgroup : field.group = group) :
    field ∈ outline.held group ↔ field ∈ outline.fields := by
  unfold Outline.held Outline.fields
  rw [List.mem_flatMap]
  constructor
  · intro hfield
    cases hlookup : outline.parts.lookup group with
    | none =>
        rw [hlookup] at hfield
        exact absurd hfield List.not_mem_nil
    | some fields =>
        rw [hlookup] at hfield
        obtain ⟨before, after, hparts, _⟩ := List.lookup_eq_some_iff.1 hlookup
        refine ⟨(group, fields), ?_, hfield⟩
        rw [hparts]
        exact List.mem_append_right before List.mem_cons_self
  · rintro ⟨part, hpart, hfield⟩
    have hsame : part.1 = group := (outline.group_eq part hpart field hfield).symm.trans hgroup
    have hlookup : outline.parts.lookup part.1 = some part.2 :=
      Data.lookup_of_mem outline.groups_nodup hpart
    rw [← hsame, hlookup]
    exact hfield

theorem holds_held (settings : Settings) (outline : Outline) (group : Group) :
    settings.Holds outline.fields group (settings.entries (outline.held group)) := by
  intro field hgroup
  rw [get?_entries]
  simp only [outline.mem_held hgroup]

/-- A group is read from its section. One without a section is read as if it had an
empty one. -/
theorem orDefault_table {α : Type} {read : Value → Option α} {result default : α}
    (settings : Settings) (outline : Outline) (group : Group)
    (hread : ∀ entries, settings.Holds outline.fields group entries →
      read (.table .header entries) = some result)
    (hdefault : read (.table .header []) = some default) :
    orDefault read default (Table.get? (settings.table outline) group.name) = some result := by
  have hheld := hread _ (holds_held settings outline group)
  rw [get?_table]
  unfold Outline.held at hheld
  cases hlookup : outline.parts.lookup group with
  | none =>
      rw [hlookup] at hheld
      exact hdefault.symm.trans hheld
  | some fields =>
      rw [hlookup] at hheld
      exact hheld

/-- A table of fields is read as settings with these fields. -/
theorem ofTable?_table (settings : Settings) (outline : Outline) :
    Settings.ofTable? (settings.table outline) = some (settings.keep outline.fields) := by
  have hproject := orDefault_table settings outline .project
    (fun _ h => project_ofToml?_of_holds h .header) rfl
  have hparsing := orDefault_table settings outline .parsing
    (fun _ h => parsing_ofToml?_of_holds h .header) rfl
  have hmetrics := orDefault_table settings outline .metrics
    (fun _ h => metrics_ofToml?_of_holds h .header) rfl
  have hgraph := orDefault_table settings outline .graph
    (fun _ h => graph_ofToml?_of_holds h .header) rfl
  refine Option.bind_eq_some_iff.2 ⟨_, hproject, ?_⟩
  refine Option.bind_eq_some_iff.2 ⟨_, hparsing, ?_⟩
  refine Option.bind_eq_some_iff.2 ⟨_, hmetrics, ?_⟩
  refine Option.bind_eq_some_iff.2 ⟨_, hgraph, ?_⟩
  rfl

/-- A document is read as settings with the fields that it holds. -/
theorem ofToml?_document {settings : Settings} {outline : Outline}
    (h : ∀ field ∈ outline.fields, (settings.get field).Readable) :
    Settings.ofToml? (settings.document outline) = some (settings.keep outline.fields) := by
  rw [Settings.ofToml?, read?_document h, Option.bind_some, ofTable?_table]

/-! ## All fields -/

/-- Some of all fields, in the order in which they are written. -/
def Outline.holding (held : Field → Bool) : Outline where
  parts := Group.all.map fun group => (group, group.fields.filter held)
  groups_nodup := by
    rw [List.map_map]
    show (Group.all.map fun group => group).Nodup
    decide
  fields_nodup := by
    intro part hpart
    obtain ⟨group, -, rfl⟩ := List.mem_map.1 hpart
    exact group.nodup_fields.filter held
  group_eq := by
    intro part hpart field hfield
    obtain ⟨group, -, rfl⟩ := List.mem_map.1 hpart
    exact group.mem_fields.1 (List.mem_filter.1 hfield).1

theorem Outline.mem_holding {held : Field → Bool} {field : Field} :
    field ∈ (Outline.holding held).fields ↔ held field = true := by
  unfold Outline.fields Outline.holding
  rw [List.mem_flatMap]
  constructor
  · rintro ⟨part, hpart, hfield⟩
    obtain ⟨group, -, rfl⟩ := List.mem_map.1 hpart
    exact (List.mem_filter.1 hfield).2
  · intro hheld
    refine ⟨_, List.mem_map_of_mem field.group.mem_all, ?_⟩
    exact List.mem_filter.2 ⟨Group.mem_fields.2 rfl, hheld⟩

/-- All fields. -/
def Outline.all : Outline :=
  Outline.holding fun _ => true

theorem Outline.mem_all (field : Field) : field ∈ Outline.all.fields :=
  Outline.mem_holding.2 rfl

theorem keep_all (settings : Settings) : settings.keep Outline.all.fields = settings := by
  simp only [Settings.keep, pick, Outline.mem_all, if_true]

/-- What is written for settings is the document of all their fields, if the two
numbers among them are integers of the format. -/
theorem toToml?_eq (settings : Settings) :
    settings.toToml? =
      if settings.parsing.maxFileSize ≤ 2 ^ 63 - 1 ∧
          settings.metrics.methodThreshold ≤ 2 ^ 63 - 1 then
        some (settings.document Outline.all)
      else none := by
  unfold Settings.toToml? ParsingSettings.toToml? MetricsSettings.toToml?
  rw [naturalText?_eq, naturalText?_eq]
  by_cases hsize : settings.parsing.maxFileSize ≤ 2 ^ 63 - 1
  · by_cases hthreshold : settings.metrics.methodThreshold ≤ 2 ^ 63 - 1
    · rw [if_pos hsize, if_pos hthreshold, if_pos ⟨hsize, hthreshold⟩]
      rfl
    · have hboth : ¬ (settings.parsing.maxFileSize ≤ 2 ^ 63 - 1 ∧
          settings.metrics.methodThreshold ≤ 2 ^ 63 - 1) := fun h => hthreshold h.2
      rw [if_pos hsize, if_neg hthreshold, if_neg hboth]
      rfl
  · have hboth : ¬ (settings.parsing.maxFileSize ≤ 2 ^ 63 - 1 ∧
        settings.metrics.methodThreshold ≤ 2 ^ 63 - 1) := fun h => hsize h.1
    rw [if_neg hsize, if_neg hboth]
    rfl

end JavaSurvey.Config
