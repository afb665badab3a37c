import JavaSurvey.CommandLine.Reach
import JavaSurvey.Files.Change

/-!
# The disk

Copies of parts of the disk into a store of files, and changes to a store brought
back to the disk.
-/

namespace JavaSurvey.Disk

open CommandLine (Reach)
open Files (Change Entry Store)

/-- The absolute path of a place. -/
def pathOf (place : List String) : String :=
  "/" ++ "/".intercalate place

/-- The kind of what stands at a place, where a link is not followed. -/
def kind? (place : List String) : IO (Option IO.FS.FileType) := do
  let root ← IO.currentDir
  try
    return some (← (root / pathOf place).symlinkMetadata).type
  catch _ => return none

/-- The path that a link leads to. A link that leads nowhere gives the empty path. -/
def linkTarget (place : List String) : IO String := do
  try
    return (← IO.FS.realPath (pathOf place)).toString
  catch _ => return ""

/-- A copy of what stands at a place, with everything below it if that is asked for. What
cannot be read is left out. -/
partial def copyEntry (deep : Bool) (place : List String) : IO (Option Entry) := do
  match ← kind? place with
  | some .dir =>
    if !deep then return some (.directory [])
    let root ← IO.currentDir
    let mut children := []
    try
      for entry in ← (root / pathOf place).readDir do
        if let some child ← copyEntry true (place ++ [entry.fileName]) then
          children := (entry.fileName, child) :: children
    catch _ => pure ()
    return some (.directory children.reverse)
  | some .file =>
    try
      return some (.file (← IO.FS.readBinFile (pathOf place)).toList)
    catch _ => return none
  | some .symlink => return some (.link (← linkTarget place))
  | _ => return none

/-- Take up what stands at the end of a way into a store, and the directories and links
on the way. The first argument bounds the number of steps. -/
def copyWay (deep : Bool) : Nat → List String → List String → Store → IO Store
  | 0, _, _, store => return store
  | _ + 1, place, [], store => do
    match ← copyEntry deep place with
    | some (.directory children) =>
      if deep then return { store with root := Entry.set (.directory children) place store.root }
      else return store
    | _ => return store
  | bound + 1, place, name :: rest, store => do
    if name == "." then return ← copyWay deep bound place rest store
    if name == ".." then return ← copyWay deep bound place.dropLast rest store
    let next := place ++ [name]
    match ← copyEntry false next with
    | some (.directory _) =>
      let root := if (store.root.get? next).isSome then store.root
        else Entry.set (.directory []) next store.root
      copyWay deep bound next rest { store with root := root }
    | some (.link target) =>
      let store := { store with root := Entry.set (.link target) next store.root }
      if target.isEmpty then return store
      copyWay deep bound [] (Files.steps target ++ rest) store
    | some entry => return { store with root := Entry.set entry next store.root }
    | none => return store

/-- The largest number of steps to a place. -/
def maxSteps : Nat := 10000

/-- Take up a path into a store. -/
def copyPath (deep : Bool) (store : Store) (path : String) : IO Store :=
  copyWay deep maxSteps []
    ((if Files.isAbsolute path then [] else store.current) ++ Files.steps path) store

/-- The store with the part of the disk that is in reach. -/
def copyReach (reach : Reach) : IO Store := do
  let current := Files.steps (← IO.currentDir).toString
  let mut store ← copyWay false maxSteps [] current ⟨.directory [], current⟩
  for path in reach.files do
    store ← copyPath false store path
  for path in reach.trees do
    store ← copyPath true store path
  return store

/-- Bring a change to the disk. -/
def apply : Change → IO Unit
  | .createDirectory place => IO.FS.createDir (pathOf place)
  | .writeFile place content => IO.FS.writeBinFile (pathOf place) ⟨content.toArray⟩

/-- Bring the differences between two stores to the disk. -/
def save (old new : Store) : IO Unit :=
  (new.root.changesFrom (some old.root) []).forM apply

end JavaSurvey.Disk
