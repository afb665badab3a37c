import JavaSurvey.Files.Entry

/-!
# Differences between trees

What has to be done to one tree of files to get another, where the other was made by
creating directories and writing files.
-/

namespace JavaSurvey.Files

/-- A step from one tree to another. -/
inductive Change where
  | createDirectory (place : List String)
  | writeFile (place : List String) (content : List UInt8)
deriving DecidableEq, Repr

/-- The children of an entry, which only a directory has. -/
def childrenOf : Option Entry → List (String × Entry)
  | some (.directory children) => children
  | _ => []

/-- The step that makes a file out of what stood in its place. -/
def fileChanges (old : Option Entry) (place : List String) (content : List UInt8) :
    List Change :=
  match old with
  | some (.file before) => if before == content then [] else [.writeFile place content]
  | _ => [.writeFile place content]

/-- The step that makes a directory out of what stood in its place. -/
def directoryChanges (old : Option Entry) (place : List String) : List Change :=
  match old with
  | some (.directory _) => []
  | _ => [.createDirectory place]

mutual

/-- The steps that lead from what stood at a place to an entry. A directory comes before
what it holds. -/
def Entry.changesFrom (old : Option Entry) (place : List String) : Entry → List Change
  | .file content => fileChanges old place content
  | .directory children =>
    directoryChanges old place ++ changesBelow (childrenOf old) place children
  | .link _ => []

/-- The steps that lead from old children to new ones. -/
def changesBelow (old : List (String × Entry)) (place : List String) :
    List (String × Entry) → List Change
  | [] => []
  | (name, entry) :: rest =>
    entry.changesFrom (child? old name) (place ++ [name]) ++ changesBelow old place rest

end

end JavaSurvey.Files
