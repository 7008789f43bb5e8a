import VersionStamp.Files.Resolution

/-! Reading and changing a file system by paths.

Every operation takes the current directory. One that fails has changed nothing:
a new file system is only given on success.
-/

namespace VersionStamp.Files.FileSystem

/-- What an operation without effect on links finds at a path, after following links.
A slash at the end asks for a directory. -/
def find (files : FileSystem) (here : Location) (path : Path) :
    Except FileFailure (Location × Entry) := do
  match ← files.resolve here .followed path with
  | .directory location =>
      return (location, (files.node? location).getD (.directory .full))
  | .entry directory name slash =>
      match ← files.lookUp directory name, slash with
      | none, _ => .error .notFound
      | some (.directory access), _ => return (name :: directory, .directory access)
      | some _, true => .error .notADirectory
      | some entry, false => return (name :: directory, entry)

def isPresent (files : FileSystem) (here : Location) (path : Path) : Bool :=
  match files.find here path with
  | .ok _ => true
  | .error _ => false

def isDirectory (files : FileSystem) (here : Location) (path : Path) : Bool :=
  match files.find here path with
  | .ok (_, .directory _) => true
  | _ => false

def read (files : FileSystem) (here : Location) (path : Path) : Except FileFailure ByteArray := do
  match ← files.find here path with
  | (_, .file _ .none) | (_, .directory .none) => .error .permissionDenied
  | (_, .file content _) => return content
  | (_, .directory _) => .error .isADirectory
  | (_, .link _) => .error .tooManyLinks

/-- The location of a new entry in a directory. A directory that has itself been removed
takes none. -/
def room (files : FileSystem) (directory : Location) (name : Name) :
    Except FileFailure Location :=
  match files.node? directory with
  | some (.directory .full) => .ok (name :: directory)
  | some _ => .error .permissionDenied
  | none => .error .notFound

def add (files : FileSystem) (directory : Location) (name : Name) (entry : Entry) :
    Except FileFailure FileSystem := do
  return files.set (← files.room directory name) entry

/-- The location of the file that is opened for writing at a path, where there may be no
file yet. -/
def writable (files : FileSystem) (here : Location) (path : Path) :
    Except FileFailure Location := do
  match ← files.resolve here .followedUnlessSlash path with
  | .directory _ | .entry _ _ true => .error .isADirectory
  | .entry directory name false =>
      match ← files.lookUp directory name with
      | some (.file _ .full) => return name :: directory
      | some (.file _ _) => .error .permissionDenied
      | some (.directory _) => .error .isADirectory
      | some (.link _) => .error .tooManyLinks
      | none => files.room directory name

/-- The location of a file that is created where nothing is, not even a link. -/
def creatable (files : FileSystem) (here : Location) (path : Path) :
    Except FileFailure Location := do
  match ← files.resolve here .kept path with
  | .directory _ => .error .alreadyExists
  | .entry _ _ true => .error .isADirectory
  | .entry directory name false =>
      if (← files.lookUp directory name).isSome then .error .alreadyExists
      else files.room directory name

/-- The file system once a file that was opened for writing has a content. -/
def write (files : FileSystem) (here : Location) (path : Path) (content : ByteArray) :
    Except FileFailure FileSystem := do
  return files.set (← files.writable here path) (.file content .full)

/-- The file system once a file that was created has a content. -/
def create (files : FileSystem) (here : Location) (path : Path) (content : ByteArray) :
    Except FileFailure FileSystem := do
  return files.set (← files.creatable here path) (.file content .full)

/-- Whether a directory may lose one of its entries. -/
def releasable (files : FileSystem) (directory : Location) : Bool :=
  match files.node? directory with
  | some (.directory .full) => true
  | _ => false

/-- Removes a file or a link, never a directory. -/
def remove (files : FileSystem) (here : Location) (path : Path) :
    Except FileFailure FileSystem := do
  match ← files.resolve here .kept path with
  | .directory _ => .error .isADirectory
  | .entry directory name slash =>
      match ← files.lookUp directory name with
      | none => .error .notFound
      | some (.directory _) =>
          if slash || files.releasable directory then .error .isADirectory
          else .error .permissionDenied
      | some _ =>
          if slash then .error .notADirectory
          else if files.releasable directory then return files.erase (name :: directory)
          else .error .permissionDenied

def makeDirectory (files : FileSystem) (here : Location) (path : Path) :
    Except FileFailure FileSystem := do
  match ← files.resolve here .kept path with
  | .directory _ => .error .alreadyExists
  | .entry directory name _ =>
      if (← files.lookUp directory name).isSome then .error .alreadyExists
      else files.add directory name (.directory .full)

/-- The written form of a location. -/
def absolutePath (location : Location) : Path :=
  ⟨Path.slash :: [Path.slash].intercalate location.reverse⟩

/-- The path of a current directory, unless that has been removed. -/
def currentPath (files : FileSystem) (here : Location) : Except FileFailure Path :=
  if (files.node? here).isSome then .ok (absolutePath here) else .error .notFound

end VersionStamp.Files.FileSystem
