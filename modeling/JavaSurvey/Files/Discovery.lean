import JavaSurvey.Files.Store

/-!
# Finding files

The files below a directory whose names contain a given text. Directories are
walked from the top, siblings by name, so that the files come in the order of their
paths. Links are neither followed nor listed, except that the walk may begin at a
link to a directory.
-/

namespace JavaSurvey.Files

/-- Whether a text contains another one. -/
def containsText (part : List Char) : List Char → Bool
  | [] => part.isEmpty
  | c :: rest => part.isPrefixOf (c :: rest) || containsText part rest

mutual

/-- The files below an entry that is shown as `path`, siblings by name. -/
def filesUnder (path : String) : Entry → List String
  | .file _ => [path]
  | .link _ => []
  | .directory children =>
    ((filesOfChildren path children).mergeSort fun a b => a.1 ≤ b.1).flatMap Prod.snd

/-- The files below each of the children of a directory. -/
def filesOfChildren (path : String) : List (String × Entry) → List (String × List String)
  | [] => []
  | (name, entry) :: rest =>
    (name, filesUnder (join path name) entry) :: filesOfChildren path rest

end

/-- Whether the name of a file contains a marker. -/
def isMarked (marker path : String) : Bool :=
  match fileName? path with
  | some name => containsText marker.toList name.toList
  | none => false

/-- All files below a directory, in the order of a walk. -/
def Store.walk (store : Store) (directory : String) : Except FileError (List String) := do
  match ← store.find false directory with
  | (_, .link _) =>
    match ← store.find true directory with
    | (_, .directory children) => .ok (filesUnder directory (.directory children))
    | _ => .ok []
  | (_, entry) => .ok (filesUnder directory entry)

/-- The files below a directory whose names contain a marker, in the order of their
paths. -/
def Store.discover (store : Store) (marker directory : String) :
    Except FileError (List String) :=
  (store.walk directory).map fun files => (files.filter (isMarked marker)).mergeSort le

end JavaSurvey.Files
