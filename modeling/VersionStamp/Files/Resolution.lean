import VersionStamp.Files.System

/-! Finding the place that a path names.

A path is followed piece by piece from the root or from a current directory. Links
on the way are followed, up to a fixed number; whether a link at the end is
followed depends on the operation.
-/

namespace VersionStamp.Files

/-- The longest name, and one more than the longest path, in bytes. -/
def nameLimit : Nat := 255

def pathLimit : Nat := 4096

/-- How many links one path may lead through. -/
def linkLimit : Nat := 40

/-- What an operation does with a link that its path ends in. -/
inductive LastLink where
  | kept
  | followed
  | followedUnlessSlash
deriving Repr, DecidableEq

def LastLink.follows (slash : Bool) : LastLink → Bool
  | .kept => false
  | .followed => true
  | .followedUnlessSlash => !slash

/-- Where a path leads: to a directory that the root or dots name, or to a name in a
directory, be there an entry of this name or not. The flag records a slash at the
end of the path. -/
inductive Place where
  | directory (location : Location)
  | entry (directory : Location) (name : Name) (slash : Bool)
deriving Repr, DecidableEq

namespace Path

def pieces (path : Path) : List Name :=
  (splitOnSlash path.bytes).filter fun piece => !piece.isEmpty

/-- Where following a path begins. -/
def start (path : Path) (here : Location) : Location :=
  if path.isAbsolute then [] else here

end Path

namespace FileSystem

/-- Whether anything may be looked up in a directory. -/
def isClosed (files : FileSystem) (directory : Location) : Bool :=
  match files.node? directory with
  | some (.directory .none) => true
  | _ => false

/-- What a directory has under a name. A directory that has itself been removed has
nothing, whatever the name. -/
def lookUp (files : FileSystem) (directory : Location) (name : Name) :
    Except FileFailure (Option Entry) :=
  if (files.node? directory).isNone then .error .notFound
  else if nameLimit < name.length then .error .nameTooLong
  else .ok (files.node? (name :: directory))

/-- Follows pieces from a directory. A link hands its target, followed by the
remaining pieces, to `jump`. -/
def walk (files : FileSystem) (lastLink : LastLink)
    (jump : Location → List Name → Bool → Except FileFailure Place) :
    Location → List Name → Bool → Except FileFailure Place
  | directory, [], _ => .ok (.directory directory)
  | directory, name :: rest, slash =>
      if files.isClosed directory then .error .permissionDenied
      else if name = Path.dot then
        walk files lastLink jump directory rest slash
      else if name = Path.dotDot then
        walk files lastLink jump directory.tail rest slash
      else if rest.isEmpty then
        if lastLink.follows slash then do
          match ← files.lookUp directory name with
          | some (.link target) =>
              jump (target.start directory) target.pieces (slash || target.endsInSlash)
          | _ => return .entry directory name slash
        else .ok (.entry directory name slash)
      else do
        match ← files.lookUp directory name with
        | none => .error .notFound
        | some (.file _ _) => .error .notADirectory
        | some (.directory _) => walk files lastLink jump (name :: directory) rest slash
        | some (.link target) => jump (target.start directory) (target.pieces ++ rest) slash

/-- Follows pieces through fewer links than the given number. -/
def follow (files : FileSystem) (lastLink : LastLink) :
    Nat → Location → List Name → Bool → Except FileFailure Place
  | 0 => fun _ _ _ => .error .tooManyLinks
  | links + 1 => walk files lastLink (follow files lastLink links)

def resolve (files : FileSystem) (here : Location) (lastLink : LastLink) (path : Path) :
    Except FileFailure Place :=
  if path.bytes.contains 0 then .error .nulInName
  else if path.bytes.isEmpty then .error .notFound
  else if pathLimit ≤ path.bytes.length then .error .nameTooLong
  else files.follow lastLink (linkLimit + 1) (path.start here) path.pieces path.endsInSlash

end FileSystem

end VersionStamp.Files
