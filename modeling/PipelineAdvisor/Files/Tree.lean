import PipelineAdvisor.Files.Path

/-!
Trees of files and directories. A location is the list of names on the way from the root; the root
is a directory. Operations resolve a path from a working directory, one piece after the other.
`FileAccess` is what a run does with files, whatever holds them; a tree with a working directory is
one such holder.
-/

namespace PipelineAdvisor

inductive FileError where
  | notFound
  | alreadyExists
  | notDirectory
  | isDirectory
  | nameTooLong
  /-- A path with a zero character. -/
  | badPath
  /-- A file that holds no text. -/
  | notText
  | other (reason : String)
deriving DecidableEq, Inhabited

def FileError.text : FileError → String
  | .notFound => "No such file or directory (os error 2)"
  | .alreadyExists => "File exists (os error 17)"
  | .notDirectory => "Not a directory (os error 20)"
  | .isDirectory => "Is a directory (os error 21)"
  | .nameTooLong => "File name too long (os error 36)"
  | .badPath => "file name contained an unexpected NUL byte"
  | .notText => "stream did not contain valid UTF-8"
  | .other reason => reason

abbrev Location := List String

inductive FileEntry where
  | file (content : ByteArray)
  | directory
deriving Inhabited

/-- What stands at which location. The root is left out. -/
structure FileTree where
  entries : List (Location × FileEntry) := []
deriving Inhabited

namespace FileTree

def entry? (tree : FileTree) (location : Location) : Option FileEntry :=
  if location.isEmpty then some .directory
  else (tree.entries.find? fun entry => entry.1 == location).map (·.2)

def file? (tree : FileTree) (location : Location) : Option ByteArray :=
  match tree.entry? location with
  | some (.file content) => some content
  | _ => none

def put (tree : FileTree) (location : Location) (entry : FileEntry) : FileTree where
  entries := (location, entry) :: tree.entries.filter fun old => old.1 != location

def longestName : Nat := 255

def longestPath : Nat := 4096

def demandDirectory (tree : FileTree) (location : Location) : Except FileError Unit :=
  match tree.entry? location with
  | some .directory => .ok ()
  | some (.file _) => .error .notDirectory
  | none => .error .notFound

/-- Follows pieces of a path. What stands at the end need not exist. -/
def walk (tree : FileTree) : Location → List String → Except FileError Location
  | location, [] => .ok location
  | location, piece :: rest => do
    tree.demandDirectory location
    if piece = "" ∨ piece = "." then walk tree location rest
    else if piece = ".." then walk tree location.dropLast rest
    else if longestName < piece.utf8ByteSize then throw .nameTooLong
    else walk tree (location ++ [piece]) rest

def start (directory : Location) (path : String) : Except FileError (Location × List String) :=
  let parts := (FilePath.pieces path.toList).map String.ofList
  if path.isEmpty then .error .notFound
  else if path.contains '\x00' then .error .badPath
  else if longestPath ≤ path.utf8ByteSize then .error .nameTooLong
  else .ok (if path.startsWith "/" then [] else directory, parts)

def resolve (tree : FileTree) (directory : Location) (path : String) :
    Except FileError (Location × FileEntry) := do
  let (origin, parts) ← start directory path
  let location ← tree.walk origin parts
  match tree.entry? location with
  | some entry => return (location, entry)
  | none => throw .notFound

def isFile (tree : FileTree) (directory : Location) (path : String) : Bool :=
  match tree.resolve directory path with
  | .ok (_, .file _) => true
  | _ => false

def isDirectory (tree : FileTree) (directory : Location) (path : String) : Bool :=
  match tree.resolve directory path with
  | .ok (_, .directory) => true
  | _ => false

def readText (tree : FileTree) (directory : Location) (path : String) :
    Except FileError String := do
  match ← tree.resolve directory path with
  | (_, .directory) => throw .isDirectory
  | (_, .file content) =>
    match String.fromUTF8? content with
    | some text => return text
    | none => throw .notText

/-- What a path would create: the directory that it stands in and its name, or none if the path ends
with dots or is the root. Tells also whether slashes follow the name. -/
def newEntry (tree : FileTree) (directory : Location) (path : String) :
    Except FileError (Option Location × Bool) := do
  let (origin, parts) ← start directory path
  let named := (parts.reverse.dropWhile (· == "")).reverse
  let trailing := decide (named.length < parts.length)
  match named.getLast? with
  | none => return (none, trailing)
  | some name =>
    let parent ← tree.walk origin named.dropLast
    tree.demandDirectory parent
    if name = "." ∨ name = ".." then return (none, trailing)
    else if longestName < name.utf8ByteSize then throw .nameTooLong
    else return (some (parent ++ [name]), trailing)

def write (tree : FileTree) (directory : Location) (path text : String) :
    Except FileError FileTree := do
  match ← tree.newEntry directory path with
  | (some location, false) =>
    match tree.entry? location with
    | some .directory => throw .isDirectory
    | _ => return tree.put location (.file text.toUTF8)
  | _ => throw .isDirectory

def makeDirectory (tree : FileTree) (directory : Location) (path : String) :
    Except FileError FileTree := do
  match ← tree.newEntry directory path with
  | (some location, _) =>
    if (tree.entry? location).isSome then throw .alreadyExists
    else return tree.put location .directory
  | (none, _) => throw .alreadyExists

/-- Makes a directory with all that are missing above it. What was made before an error stays. -/
def makeDirectories (directory : Location) :
    Nat → String → FileTree → Except FileError Unit × FileTree
  | 0, _, tree => (.error .notFound, tree)
  | fuel + 1, path, tree =>
    let orKnown (error : FileError) (tree : FileTree) : Except FileError Unit × FileTree :=
      if tree.isDirectory directory path then (.ok (), tree) else (.error error, tree)
    if path.isEmpty then (.ok (), tree)
    else
      match tree.makeDirectory directory path with
      | .ok tree => (.ok (), tree)
      | .error .notFound =>
        match FilePath.parent? path with
        | none => (.error (.other "failed to create whole tree"), tree)
        | some parent =>
          match makeDirectories directory fuel parent tree with
          | (.error error, tree) => (.error error, tree)
          | (.ok (), tree) =>
            match tree.makeDirectory directory path with
            | .ok tree => (.ok (), tree)
            | .error error => orKnown error tree
      | .error error => orKnown error tree

end FileTree

structure FileAccess (m : Type → Type) where
  /-- The working directory as an absolute path. -/
  workingDirectory : m (Except FileError String)
  isFile : String → m Bool
  readText : String → m (Except FileError String)
  /-- Makes a directory with all that are missing above it. -/
  makeDirectories : String → m (Except FileError Unit)
  /-- Writes a text into a file. -/
  write : String → String → m (Except FileError Unit)

namespace FileAccess

def absolutePath (location : Location) : String :=
  "/" ++ String.intercalate "/" location

def ofTree (directory : Location) : FileAccess (StateM FileTree) where
  workingDirectory := pure (.ok (absolutePath directory))
  isFile path := do return (← get).isFile directory path
  readText path := do return (← get).readText directory path
  makeDirectories path := do
    let (result, tree) := FileTree.makeDirectories directory (path.length + 1) path (← get)
    set tree
    return result
  write path text := do
    match (← get).write directory path text with
    | .ok tree =>
      set tree
      return .ok ()
    | .error error => return .error error

end FileAccess

end PipelineAdvisor
