import JavaSurvey.Files.Entry
import JavaSurvey.Files.Path

/-!
# The store of files

A store is a tree of files with a current directory. Paths are resolved step by
step: names lead into directories, two points lead out of them, and links are
replaced by their targets. A path that ends in a slash can only be a directory.

Every operation either succeeds or tells why not, in the order in which the steps
of its path are taken.
-/

namespace JavaSurvey.Files

/-- Why an operation on files fails. -/
inductive FileError where
  | notFound
  | permissionDenied
  | alreadyExists
  | notADirectory
  | isADirectory
  | nameTooLong
  | tooManyLinks
  /-- The path has a character that no path can have. -/
  | containsNul
  /-- What is read is no text. -/
  | notText
deriving DecidableEq, Repr

/-- The wording of an error. -/
def FileError.message : FileError → String
  | .notFound => "No such file or directory (os error 2)"
  | .permissionDenied => "Permission denied (os error 13)"
  | .alreadyExists => "File exists (os error 17)"
  | .notADirectory => "Not a directory (os error 20)"
  | .isADirectory => "Is a directory (os error 21)"
  | .nameTooLong => "File name too long (os error 36)"
  | .tooManyLinks => "Too many levels of symbolic links (os error 40)"
  | .containsNul => "file name contained an unexpected NUL byte"
  | .notText => "stream did not contain valid UTF-8"

/-- A tree of files with a current directory. -/
structure Store where
  root : Entry
  /-- The place of the current directory. -/
  current : List String

/-- The largest number of bytes in a name. -/
def maxNameSize : Nat := 255

/-- The largest number of bytes in a path. -/
def maxPathSize : Nat := 4095

/-- The largest number of links on the way to a place. -/
def maxLinks : Nat := 40

/-- The path of the current directory. -/
def Store.currentPath (store : Store) : String :=
  "/" ++ "/".intercalate store.current

/-- The names between the slashes of a path. -/
def steps (path : String) : List String :=
  (pieces path).filter (· != "")

/-- Whether a path ends in a slash. -/
def endsInSlash (path : String) : Bool :=
  path.toList.getLast? == some '/'

/-- How far a way leads without following a link. -/
inductive Progress where
  /-- To its end, a place in an existing directory. -/
  | arrived (place : List String)
  /-- To a link in a directory, behind which further steps remain. -/
  | redirected (directory : List String) (target : String) (rest : List String)
  | failed (error : FileError)

/-- Take steps from a directory until the end or a link. A link at the end counts only
if it is to be followed. -/
def Store.advance (store : Store) (follow : Bool) (directory : List String) :
    List String → Progress
  | [] => .arrived directory
  | name :: rest =>
    if name == "." then store.advance follow directory rest
    else if name == ".." then store.advance follow directory.dropLast rest
    else if maxNameSize < name.utf8ByteSize then .failed .nameTooLong
    else
      let place := directory ++ [name]
      match store.root.get? place with
      | some (.directory _) => store.advance follow place rest
      | some (.file _) => if rest.isEmpty then .arrived place else .failed .notADirectory
      | some (.link target) =>
        if rest.isEmpty && !follow then .arrived place else .redirected directory target rest
      | none => if rest.isEmpty then .arrived place else .failed .notFound

/-- The place at the end of a way, which passes at most so many links. -/
def Store.resolve (store : Store) (follow : Bool) :
    Nat → List String → List String → Except FileError (List String)
  | links, directory, way =>
    match store.advance follow directory way with
    | .arrived place => .ok place
    | .failed error => .error error
    | .redirected directory target rest =>
      match links with
      | 0 => .error .tooManyLinks
      | links + 1 =>
        if target.isEmpty then .error .notFound
        else
          let remaining := if endsInSlash target && rest.isEmpty then ["."] else rest
          store.resolve follow links (if isAbsolute target then [] else directory)
            (steps target ++ remaining)

/-- Refuse texts that are no paths. -/
def checkPath (path : String) : Except FileError Unit :=
  if path.toList.contains '\x00' then .error .containsNul
  else if path.isEmpty then .error .notFound
  else if maxPathSize < path.utf8ByteSize then .error .nameTooLong
  else .ok ()

/-- The place that steps lead to from where a path starts. -/
def Store.place (store : Store) (follow : Bool) (path : String) (way : List String) :
    Except FileError (List String) :=
  store.resolve follow maxLinks (if isAbsolute path then [] else store.current) way

/-- What a path leads to, and its place. -/
def Store.find (store : Store) (follow : Bool) (path : String) :
    Except FileError (List String × Entry) := do
  checkPath path
  let way := steps path ++ if endsInSlash path then ["."] else []
  let place ← store.place follow path way
  match store.root.get? place with
  | some entry => .ok (place, entry)
  | none => .error .notFound

/-! ## Reading -/

/-- Whether a path leads to something. -/
def Store.exists (store : Store) (path : String) : Bool :=
  (store.find true path).toBool

/-- Whether a path leads to a directory. -/
def Store.isDirectory (store : Store) (path : String) : Bool :=
  match store.find true path with
  | .ok (_, entry) => entry.isDirectory
  | .error _ => false

/-- The content of a file. -/
def Store.read (store : Store) (path : String) : Except FileError (List UInt8) := do
  match ← store.find true path with
  | (_, .file content) => .ok content
  | (_, .directory _) => .error .isADirectory
  | (_, .link _) => .error .tooManyLinks

/-- Everything below the current directory, in order. -/
def Store.listing (store : Store) : List String :=
  match store.root.get? store.current with
  | some (.directory children) => (listingBelow "" children).mergeSort fun a b => a ≤ b
  | _ => []

/-! ## Writing -/

/-- Whether the last step of a path is a name. -/
def endsInName (way : List String) : Bool :=
  match way.getLast? with
  | some name => name != "." && name != ".."
  | none => false

/-- The place of a directory that steps lead to. -/
def Store.directory (store : Store) (path : String) (way : List String) :
    Except FileError (List String) :=
  store.place true path (way ++ ["."])

/-- Write a file, which is created if it does not exist. A path that can only be a
directory is refused once its parent is found. -/
def Store.write (store : Store) (path : String) (content : List UInt8) :
    Except FileError Store := do
  checkPath path
  let way := steps path
  if !endsInName way then
    let _ ← store.directory path way
    .error .isADirectory
  else if endsInSlash path then
    let _ ← store.directory path way.dropLast
    .error .isADirectory
  else
    let place ← store.place true path way
    match store.root.get? place with
    | some (.directory _) => .error .isADirectory
    | _ => .ok { store with root := Entry.set (.file content) place store.root }

/-- Create something new at a path whose parent exists. -/
def Store.create (store : Store) (path : String) (entry : Entry) : Except FileError Store := do
  checkPath path
  let way := steps path
  if !endsInName way then
    let _ ← store.directory path way
    .error .alreadyExists
  else
    let parent ← store.directory path way.dropLast
    let place ← store.resolve false maxLinks parent [way.getLastD ""]
    match store.root.get? place with
    | some _ => .error .alreadyExists
    | none => .ok { store with root := Entry.set entry place store.root }

/-- Create a directory whose parent exists. -/
def Store.createDirectory (store : Store) (path : String) : Except FileError Store :=
  store.create path (.directory [])

/-- Create a link whose parent exists. -/
def Store.createLink (store : Store) (path target : String) : Except FileError Store :=
  store.create path (.link target)

/-- Create the directory with the given components (in reverse) and those above it that
are missing. What was created stays when a later step fails. -/
def Store.createPath (store : Store) : List Component → Store × Except FileError Unit
  | [] => (store, .ok ())
  | last :: above =>
    let path := ofComponents (last :: above).reverse
    match store.createDirectory path with
    | .ok store => (store, .ok ())
    | .error .notFound =>
      match store.createPath above with
      | (store, .error error) => (store, .error error)
      | (store, .ok ()) =>
        match store.createDirectory path with
        | .ok store => (store, .ok ())
        | .error error => (store, if store.isDirectory path then .ok () else .error error)
    | .error error => (store, if store.isDirectory path then .ok () else .error error)

/-- Create a directory and those above it that are missing. -/
def Store.createDirectories (store : Store) (path : String) : Store × Except FileError Unit :=
  if path.toList.contains '\x00' then (store, .error .containsNul)
  else store.createPath (components path).reverse

/-- Take away a file, a link or a whole directory. -/
def Store.remove (store : Store) (path : String) : Except FileError Store := do
  let (place, _) ← store.find false path
  .ok { store with root := store.root.erase place }

end JavaSurvey.Files
