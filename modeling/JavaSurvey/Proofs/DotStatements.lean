import JavaSurvey.Proofs.Collections
import JavaSurvey.Proofs.DotLexemes

/-!
# Statements of the DOT language

The part of the language in which graphs are described here: attributes of all
nodes, of one node and of a graph, edges between two nodes, and subgraphs. What a
text describes follows from its statements in turn: a node exists from where it is
first mentioned, and a mention inside a subgraph makes it a member of the
subgraph, even if it was mentioned outside before.

## Main results

* `shortens_statementStep`: reading statements comes to an end.
* `statements?_of_lexemes`: a directed graph is described by the statements behind
  the opening brace.
-/

namespace JavaSurvey.Dot

/-! ## Statements -/

/-- The value of an attribute. -/
inductive Value where
  | text (text : String)
  | markup (text : String)
deriving DecidableEq

/-- The value that a lexeme stands for. -/
def Lexeme.value? : Lexeme → Option Value
  | .name text => some (.text text)
  | .markup text => some (.markup text)
  | _ => none

/-- Attributes with their values. -/
abbrev Attributes := List (String × Value)

/-- Attributes behind the opening bracket, with commas between. -/
def attributes? : List Lexeme → Option (Attributes × List Lexeme)
  | .mark ']' :: rest => some ([], rest)
  | .name name :: .mark '=' :: value :: .mark ',' :: rest =>
    value.value?.bind fun value =>
      (attributes? rest).map fun (others, rest) => ((name, value) :: others, rest)
  | .name name :: .mark '=' :: value :: .mark ']' :: rest =>
    value.value?.map fun value => ([(name, value)], rest)
  | _ => none

/-- A statement. A subgraph is opened and closed by statements of their own. -/
inductive Statement where
  /-- Attributes of all nodes, all edges or the graph. -/
  | defaults (kind : String) (attributes : Attributes)
  | setting (name : String) (value : Value)
  | node (name : String) (attributes : Attributes)
  | edge (tail head : String)
  | opening (name : String)
  | closing
deriving DecidableEq

/-- The statement at the front. -/
def statement? : List Lexeme → Option (Statement × List Lexeme)
  | .mark '\x7d' :: rest => some (.closing, rest)
  | .keyword "subgraph" :: .name name :: .mark '\x7b' :: rest =>
    some (.opening name, rest)
  | .keyword kind :: .mark '[' :: rest =>
    if ["graph", "node", "edge"].contains kind then
      (attributes? rest).map fun (attributes, rest) => (.defaults kind attributes, rest)
    else none
  | .name tail :: .arrow :: .name head :: rest => some (.edge tail head, rest)
  | .name name :: .mark '=' :: value :: rest =>
    value.value?.map fun value => (.setting name value, rest)
  | .name name :: .mark '[' :: rest =>
    (attributes? rest).map fun (attributes, rest) => (.node name attributes, rest)
  | _ => none

/-- What is left behind a semicolon, if there is one. -/
def afterSemicolon : List Lexeme → List Lexeme
  | .mark ';' :: rest => rest
  | rest => rest

/-- A step of reading statements. -/
def statementStep (lexemes : List Lexeme) : Option (List Statement × List Lexeme) :=
  (statement? lexemes).map fun (statement, rest) =>
    match statement with
    | .opening name => ([.opening name], rest)
    | statement => ([statement], afterSemicolon rest)

theorem length_le_of_attributes? {lexemes rest : List Lexeme} {attributes : Attributes}
    (h : attributes? lexemes = some (attributes, rest)) :
    rest.length ≤ lexemes.length := by
  fun_induction attributes? lexemes generalizing attributes with
  | case1 lexemes =>
      cases h
      exact Nat.le_succ _
  | case2 name value lexemes ih =>
      obtain ⟨_, _, h⟩ := Option.bind_eq_some_iff.1 h
      obtain ⟨⟨others, _⟩, hothers, heq⟩ := Option.map_eq_some_iff.1 h
      cases heq
      have := ih hothers
      simp only [List.length_cons]
      omega
  | case3 name value lexemes =>
      obtain ⟨_, _, heq⟩ := Option.map_eq_some_iff.1 h
      cases heq
      simp only [List.length_cons]
      omega
  | case4 => cases h

theorem length_lt_of_statement? {lexemes rest : List Lexeme} {statement : Statement}
    (h : statement? lexemes = some (statement, rest)) :
    rest.length < lexemes.length := by
  rw [statement?.eq_def] at h
  split at h
  next =>
    cases h
    exact Nat.lt_succ_self _
  next =>
    cases h
    simp only [List.length_cons]
    omega
  next =>
    split at h
    next =>
      obtain ⟨⟨attributes, _⟩, hattributes, heq⟩ := Option.map_eq_some_iff.1 h
      cases heq
      have := length_le_of_attributes? hattributes
      simp only [List.length_cons]
      omega
    next => cases h
  next =>
    cases h
    simp only [List.length_cons]
    omega
  next =>
    obtain ⟨_, _, heq⟩ := Option.map_eq_some_iff.1 h
    cases heq
    simp only [List.length_cons]
    omega
  next =>
    obtain ⟨⟨attributes, _⟩, hattributes, heq⟩ := Option.map_eq_some_iff.1 h
    cases heq
    have := length_le_of_attributes? hattributes
    simp only [List.length_cons]
    omega
  next => cases h

theorem length_afterSemicolon_le (lexemes : List Lexeme) :
    (afterSemicolon lexemes).length ≤ lexemes.length := by
  rw [afterSemicolon.eq_def]
  split
  next => exact Nat.le_succ _
  next => exact Nat.le_refl _

theorem shortens_statementStep : Shortens statementStep := by
  intro lexemes found rest h
  obtain ⟨⟨statement, left⟩, hstatement, heq⟩ := Option.map_eq_some_iff.1 h
  have hlt := length_lt_of_statement? hstatement
  have hle := length_afterSemicolon_le left
  dsimp only at heq
  split at heq
  next =>
    cases heq
    exact hlt
  next =>
    cases heq
    exact Nat.lt_of_le_of_lt hle hlt

/-! ## Descriptions -/

/-- What a text describes. -/
structure Description where
  /-- The nodes, in the order in which they are first mentioned. -/
  nodes : List String := []
  edges : List (String × String) := []
  /-- Subgraphs with the nodes that are mentioned in them. -/
  members : List (String × String) := []
  /-- Nodes with the attributes that they are given. -/
  attributes : List (String × Attributes) := []
deriving DecidableEq

namespace Description

/-- A node is mentioned inside some subgraphs. -/
def mention (description : Description) (inside : List String) (name : String) :
    Description :=
  { description with
    nodes :=
      if description.nodes.contains name then description.nodes
      else description.nodes ++ [name]
    members := description.members ++ inside.map fun subgraph => (subgraph, name) }

/-- The nodes of a subgraph. -/
def membersOf (description : Description) (subgraph : String) : List String :=
  description.members.filterMap fun (other, name) =>
    if other == subgraph then some name else none

/-- The attributes that a node is given by statements of its own. -/
def attributesOf (description : Description) (name : String) : Attributes :=
  description.attributes.flatMap fun (other, attributes) =>
    if other == name then attributes else []

theorem mem_attributesOf {description : Description} {name : String}
    {found : String × Value} :
    found ∈ description.attributesOf name ↔
      ∃ attributes, (name, attributes) ∈ description.attributes ∧
        found ∈ attributes := by
  rw [attributesOf, List.mem_flatMap]
  constructor
  · rintro ⟨⟨other, attributes⟩, hentry, hfound⟩
    by_cases hname : other = name
    · subst hname
      exact ⟨attributes, hentry, by simpa using hfound⟩
    · simp [hname] at hfound
  · rintro ⟨attributes, hentry, hfound⟩
    exact ⟨(name, attributes), hentry, by simpa using hfound⟩

theorem mention_eraseDups (nodes : List String) (edges members attributes)
    (inside : List String) (name : String) :
    mention ⟨nodes.eraseDups, edges, members, attributes⟩ inside name =
      ⟨(nodes ++ [name]).eraseDups, edges,
        members ++ inside.map fun subgraph => (subgraph, name), attributes⟩ := by
  simp only [mention, Data.eraseDups_concat, List.contains_iff_mem,
    List.mem_eraseDups]

end Description

/-- What statements describe inside some subgraphs, up to the end of the graph. -/
def describe (inside : List String) (description : Description) :
    List Statement → Option Description
  | [] => none
  | .closing :: rest =>
    match inside with
    | [] => if rest.isEmpty then some description else none
    | _ :: outer => describe outer description rest
  | .opening name :: rest => describe (name :: inside) description rest
  | .edge tail head :: rest =>
    let description := (description.mention inside tail).mention inside head
    describe inside
      { description with edges := description.edges ++ [(tail, head)] } rest
  | .node name attributes :: rest =>
    let description := description.mention inside name
    describe inside
      { description with
        attributes := description.attributes ++ [(name, attributes)] } rest
  | .defaults _ _ :: rest => describe inside description rest
  | .setting _ _ :: rest => describe inside description rest

/-- The statements of a text, if it is the description of a directed graph. -/
def statements? (text : String) : Option (List Statement) :=
  (readAll lexStep text.toList).bind fun lexemes =>
    match lexemes with
    | .keyword "digraph" :: .name _ :: .mark '\x7b' :: rest => readAll statementStep rest
    | _ => none

/-- What a text describes, if it is the description of a directed graph. -/
def described? (text : String) : Option Description :=
  (statements? text).bind (describe [] {})

theorem statements?_of_lexemes {text name : String} {rest : List Lexeme}
    (h : readAll lexStep text.toList =
      some (.keyword "digraph" :: .name name :: .mark '\x7b' :: rest)) :
    statements? text = readAll statementStep rest := by
  rw [statements?, h]
  rfl

end JavaSurvey.Dot
