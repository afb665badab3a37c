/-!
# Trees of files

A tree holds files, directories and symbolic links. Places in it are rows of names;
the empty row is the tree itself. Nothing here follows links.
-/

namespace JavaSurvey.Files

/-- What a directory can hold. -/
inductive Entry where
  | file (content : List UInt8)
  | directory (children : List (String × Entry))
  | link (target : String)

/-- The child with a name. -/
def child? (children : List (String × Entry)) (name : String) : Option Entry :=
  children.lookup name

/-- Children with one of them set: in its place, or else at the end. -/
def setChild (name : String) (entry : Entry) : List (String × Entry) → List (String × Entry)
  | [] => [(name, entry)]
  | child :: rest =>
    if child.1 == name then (name, entry) :: rest else child :: setChild name entry rest

/-- Children without the one that has a name. -/
def eraseChild (name : String) (children : List (String × Entry)) : List (String × Entry) :=
  children.filter fun child => child.1 != name

/-- What stands at a place. -/
def Entry.get? : Entry → List String → Option Entry
  | entry, [] => some entry
  | .directory children, name :: rest =>
    match child? children name with
    | some child => child.get? rest
    | none => none
  | _, _ :: _ => none

/-- Put something at a place in an existing directory. -/
def Entry.set (new : Entry) : List String → Entry → Entry
  | [], _ => new
  | [name], .directory children => .directory (setChild name new children)
  | name :: rest, .directory children =>
    match child? children name with
    | some child => .directory (setChild name (Entry.set new rest child) children)
    | none => .directory children
  | _ :: _, entry => entry

/-- Take away what stands at a place. -/
def Entry.erase : List String → Entry → Entry
  | [], entry => entry
  | [name], .directory children => .directory (eraseChild name children)
  | name :: rest, .directory children =>
    match child? children name with
    | some child => .directory (setChild name (Entry.erase rest child) children)
    | none => .directory children
  | _ :: _, entry => entry

/-- Whether an entry is a directory. -/
def Entry.isDirectory : Entry → Bool
  | .directory _ => true
  | _ => false

/-- Whether an entry is a file. -/
def Entry.isFile : Entry → Bool
  | .file _ => true
  | _ => false

mutual

/-- Everything below an entry that is shown as `path`, in the order in which it is
kept: a path with a slash behind it for a directory, and the plain path for the
rest. -/
def Entry.listing (path : String) : Entry → List String
  | .directory children => (path ++ "/") :: listingBelow (path ++ "/") children
  | .file _ => [path]
  | .link _ => [path]

/-- The listings of the children of a directory. -/
def listingBelow (base : String) : List (String × Entry) → List String
  | [] => []
  | (name, entry) :: rest => entry.listing (base ++ name) ++ listingBelow base rest

end

end JavaSurvey.Files
