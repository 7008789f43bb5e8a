import VersionStamp.Text.Lossy

/-! Paths, and what can go wrong with them.

A path is any sequence of bytes; nothing is resolved or tidied here. Joining and
taking the parent work on the written form alone.
-/

namespace VersionStamp.Files

inductive FileFailure where
  | notFound
  | permissionDenied
  | alreadyExists
  | notADirectory
  | isADirectory
  | nameTooLong
  | tooManyLinks
  | invalidText
  | nulInName
  | other (text : String)
deriving Repr, DecidableEq

/-- How the system words it. -/
def FileFailure.message : FileFailure → String
  | .notFound => "No such file or directory (os error 2)"
  | .permissionDenied => "Permission denied (os error 13)"
  | .alreadyExists => "File exists (os error 17)"
  | .notADirectory => "Not a directory (os error 20)"
  | .isADirectory => "Is a directory (os error 21)"
  | .nameTooLong => "File name too long (os error 36)"
  | .tooManyLinks => "Too many levels of symbolic links (os error 40)"
  | .invalidText => "stream did not contain valid UTF-8"
  | .nulInName => "file name contained an unexpected NUL byte"
  | .other text => text

structure Path where
  bytes : List UInt8
deriving Repr, DecidableEq

namespace Path

def slash : UInt8 := 47
def dot : List UInt8 := [46]
def dotDot : List UInt8 := [46, 46]

def ofString (text : String) : Path := ⟨text.toUTF8.data.toList⟩

/-- The path as text, if its bytes are valid UTF-8. -/
def toString? (path : Path) : Option String :=
  String.fromUTF8? ⟨path.bytes.toArray⟩

/-- The path as messages show it. -/
def display (path : Path) : String :=
  path.toString?.getD (Text.lossy path.bytes)

/-- A configured name, in which a backslash separates like a slash. -/
def ofConfigured (name : String) : Path :=
  ofString (String.ofList (name.toList.map fun c => if c = '\\' then '/' else c))

def isAbsolute (path : Path) : Bool :=
  path.bytes.head? == some slash

def endsInSlash (path : Path) : Bool :=
  path.bytes.getLast? == some slash

/-- An absolute name replaces the base. Otherwise the name follows the base, after
a slash unless the base is empty or already ends in one. -/
def join (base name : Path) : Path :=
  if name.isAbsolute then name
  else if base.bytes.isEmpty || base.endsInSlash then ⟨base.bytes ++ name.bytes⟩
  else ⟨base.bytes ++ slash :: name.bytes⟩

/-- The pieces between slashes, empty ones included; there is always at least one. -/
def splitOnSlash : List UInt8 → List (List UInt8)
  | [] => [[]]
  | byte :: rest =>
      if byte = slash then [] :: splitOnSlash rest
      else
        match splitOnSlash rest with
        | [] => [[byte]]
        | piece :: pieces => (byte :: piece) :: pieces

/-- Pieces that stand for the directory they occur in. -/
def isIdle (piece : List UInt8) : Bool := piece.isEmpty || piece == dot

/-- A path split before its first ordinary piece: the root, or a leading dot, or
nothing. -/
def splitHead (path : Path) : List UInt8 × List UInt8 :=
  match path.bytes with
  | 47 :: rest => ([slash], rest)
  | [46] => (dot, [])
  | 46 :: 47 :: rest => (dot, slash :: rest)
  | bytes => ([], bytes)

/-- The directories above a path, innermost first, from its pieces in reverse. Idle
pieces at the end of a path do not count. -/
def ancestorsFrom (head : List UInt8) : List (List UInt8) → List Path
  | [] => if head = dot then [⟨[]⟩] else []
  | piece :: earlier =>
      if isIdle piece then ancestorsFrom head earlier
      else
        ⟨head ++ [slash].intercalate (earlier.dropWhile isIdle).reverse⟩ ::
          ancestorsFrom head earlier

/-- The directories above a path, innermost first. There are none above the root or
the empty path; the one above a single name is the empty path. -/
def ancestors (path : Path) : List Path :=
  let (head, body) := path.splitHead
  ancestorsFrom head (splitOnSlash body).reverse

end Path

end VersionStamp.Files
