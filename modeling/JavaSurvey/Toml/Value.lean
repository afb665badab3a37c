/-!
# TOML documents

A document is a table of named values. Besides the values themselves a table
remembers how it came about, because that decides whether later lines may still
add to it: a table may be opened by one header only, dotted keys may only go
through tables that dotted keys made, and a table in braces is closed.
-/

namespace JavaSurvey.Toml

/-- The largest integer. -/
def maxInteger : Int := 9223372036854775807

/-- The smallest integer. -/
def minInteger : Int := -9223372036854775808

/-- How a table came about. -/
inductive Origin where
  /-- By a header of its own. -/
  | header
  /-- On the way to the table of a longer header. -/
  | implied
  /-- On the way to a dotted key. -/
  | dotted
  /-- By braces. -/
  | inline
deriving DecidableEq, Repr

/-- A value of a document. -/
inductive Value where
  | string (text : String)
  | integer (n : Int)
  | float (x : Float)
  | boolean (value : Bool)
  /-- A date, a time of day or both. Nothing here asks which. -/
  | moment
  | array (items : List Value)
  | table (origin : Origin) (entries : List (String × Value))
  /-- The tables that headers in double brackets opened. -/
  | tables (elements : List (List (String × Value)))

/-- The entries of a table, in the order of their first mention. -/
abbrev Table := List (String × Value)

/-- The value of a key. -/
def Table.get? (table : Table) (key : String) : Option Value :=
  table.lookup key

/-- Set the value of a key: in its place, or else at the end. -/
def Table.set : Table → String → Value → Table
  | [], key, value => [(key, value)]
  | entry :: rest, key, value =>
    if entry.1 == key then (key, value) :: rest else entry :: Table.set rest key value

/-- What the keys on the way to a place are part of. -/
inductive Descent where
  | header
  | dottedKey
deriving DecidableEq, Repr

/-- How a table comes about that such a way passes first. -/
def Descent.makes : Descent → Origin
  | .header => .implied
  | .dottedKey => .dotted

/-- Whether such a way may pass a table. -/
def Descent.passes : Descent → Origin → Bool
  | .header, origin => origin != .inline
  | .dottedKey, origin => origin == .implied || origin == .dotted

/-- Change the table at the end of a way, which makes the tables that it misses. In
a list of tables the way goes on in the last one. -/
def Table.updateAt (descent : Descent) (edit : Origin → Table → Option Table) :
    List String → Origin → Table → Option Table
  | [], origin, table => edit origin table
  | key :: path, _, table =>
    match table.get? key with
    | none => do
      let made ← Table.updateAt descent edit path descent.makes []
      some (table.set key (.table descent.makes made))
    | some (.table origin entries) => do
      if !descent.passes origin then none
      let changed ← Table.updateAt descent edit path origin entries
      some (table.set key (.table origin changed))
    | some (.tables elements) => do
      let last ← elements.getLast?
      let changed ← Table.updateAt descent edit path .header last
      some (table.set key (.tables (elements.dropLast ++ [changed])))
    | some _ => none

/-- Add a value under a dotted key. A key may be given once. With a dotted key the
table it ends in must be one of dotted keys. -/
def Table.insert (path : List String) (key : String) (value : Value) (origin : Origin)
    (table : Table) : Option Table :=
  Table.updateAt .dottedKey
    (fun origin table =>
      if (!path.isEmpty && origin != .dotted) || (table.get? key).isSome then none
      else some (table ++ [(key, value)]))
    path origin table

/-- Open a table by a header. It must be new, or only have been passed by headers. -/
def Table.openTable (key : String) (table : Table) : Option Table :=
  match table.get? key with
  | none => some (table.set key (.table .header []))
  | some (.table .implied entries) => some (table.set key (.table .header entries))
  | some _ => none

/-- Open a further table of a list of tables. -/
def Table.openElement (key : String) (table : Table) : Option Table :=
  match table.get? key with
  | none => some (table.set key (.tables [[]]))
  | some (.tables elements) => some (table.set key (.tables (elements ++ [[]])))
  | some _ => none

/-- A document as far as it is read. -/
structure Document where
  root : Table := []
  /-- The way to the table that keys are added to. -/
  current : List String := []

/-- Add a value to the current table. -/
def Document.insert (document : Document) (path : List String) (key : String) (value : Value) :
    Option Document := do
  let root ← Table.updateAt .header (fun origin table => table.insert path key value origin)
    document.current .header document.root
  some { document with root := root }

/-- Begin the table of a header; `isElement` tells double brackets. -/
def Document.enter (document : Document) (isElement : Bool) (path : List String) (key : String) :
    Option Document := do
  let root ← Table.updateAt .header
    (fun _ table => if isElement then table.openElement key else table.openTable key)
    path .header document.root
  some ⟨root, path ++ [key]⟩

end JavaSurvey.Toml
