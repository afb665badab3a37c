/-!
# Paths

A path is a text in which slashes separate components. Repeated slashes, trailing
slashes and single points in the middle carry no meaning, but the text is kept as
it was given: paths are compared and taken apart by their components and shown by
their text.
-/

namespace JavaSurvey.Files

/-- A step of a path. -/
inductive Component where
  /-- The slash an absolute path starts with. -/
  | root
  /-- A point at the very start of a relative path. -/
  | current
  /-- Two points. -/
  | parent
  | name (text : String)
deriving DecidableEq, Repr

/-- The pieces of a text between slashes, in front of which `piece` is read already
(in reverse). -/
def piecesFrom (piece : List Char) : List Char → List String
  | [] => [String.ofList piece.reverse]
  | '/' :: rest => String.ofList piece.reverse :: piecesFrom [] rest
  | c :: rest => piecesFrom (c :: piece) rest

/-- The pieces of a text between slashes. -/
def pieces (path : String) : List String :=
  piecesFrom [] path.toList

/-- The component for a piece that is neither empty nor a single point. -/
def Component.ofPiece (piece : String) : Component :=
  if piece == ".." then .parent else .name piece

/-- The components of pieces, where empty pieces and points count for nothing. -/
def componentsOfPieces (pieces : List String) : List Component :=
  (pieces.filter fun piece => piece != "" && piece != ".").map Component.ofPiece

/-- The components of a path. -/
def components (path : String) : List Component :=
  match pieces path with
  | "" :: rest => if rest.isEmpty then [] else .root :: componentsOfPieces rest
  | "." :: rest => .current :: componentsOfPieces rest
  | all => componentsOfPieces all

/-- Whether a path starts at the root. -/
def isAbsolute (path : String) : Bool :=
  path.toList.head? == some '/'

/-- The last component of a path, if it is a name. -/
def fileName? (path : String) : Option String :=
  match (components path).getLast? with
  | some (.name text) => some text
  | _ => none

/-- A file name without its extension: without its last point and what follows it.
A point at the very start does not begin an extension. -/
def stem (name : String) : String :=
  let (extension, before) := name.toList.reverse.span (· != '.')
  match before with
  | '.' :: base => if base.isEmpty then name else String.ofList base.reverse
  | _ => String.ofList extension.reverse

/-- The file name of a path without its extension; empty if the path names no file. -/
def fileStem (path : String) : String :=
  match fileName? path with
  | some name => stem name
  | none => ""

/-- A path below another one. An absolute path replaces what is in front of it. -/
def join (base path : String) : String :=
  if isAbsolute path || base.isEmpty then path
  else if base.toList.getLast? == some '/' then base ++ path
  else base ++ "/" ++ path

/-- The text of a component. -/
def Component.text : Component → String
  | .root => "/"
  | .current => "."
  | .parent => ".."
  | .name text => text

/-- A path with given components. -/
def ofComponents (components : List Component) : String :=
  components.foldl (fun path component => join path component.text) ""

/-- The path without its last component; nothing for the root and the empty path. -/
def parent? (path : String) : Option String :=
  match (components path).reverse with
  | [] => none
  | [.root] => none
  | _ :: before => some (ofComponents before.reverse)

/-- Where a component stands in the order of components. -/
def Component.rank : Component → Nat
  | .root => 0
  | .current => 1
  | .parent => 2
  | .name _ => 3

/-- Whether a component comes before another one: by kind, and names by their
characters. -/
def Component.before : Component → Component → Bool
  | .name first, .name second => first < second
  | first, second => first.rank < second.rank

/-- Whether a row of components comes no later than another one. -/
def componentsLe : List Component → List Component → Bool
  | [], _ => true
  | _ :: _, [] => false
  | first :: rest, second :: others =>
    first.before second || (first == second && componentsLe rest others)

/-- Whether a path comes no later than another one. Paths are ordered by their
components, so that what lies below a directory stays together. -/
def le (first second : String) : Bool :=
  componentsLe (components first) (components second)

end JavaSurvey.Files
