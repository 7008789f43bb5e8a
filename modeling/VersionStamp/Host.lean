import VersionStamp.Files.Path
import VersionStamp.Log.Record

/-! What a run needs of its surroundings.

The programs are written against this interface. The command gives it the real
file system and terminal; a simulated world gives it a value that theorems can
speak about.
-/

namespace VersionStamp

open VersionStamp.Files VersionStamp.Log

class Host (m : Type → Type) where
  /-- A file that was opened for writing. -/
  Handle : Type
  readFile : Path → ExceptT FileFailure m ByteArray
  /-- Opens a file and takes its content away, or creates the file. -/
  openFile : Path → ExceptT FileFailure m Handle
  /-- Creates a file where nothing is. -/
  createFile : Path → ExceptT FileFailure m Handle
  /-- Writes a text into an opened file. When it fails a part of the text may be there. -/
  writeAll : Handle → String → ExceptT FileFailure m Unit
  /-- Removes a file or a link. -/
  removeFile : Path → ExceptT FileFailure m Unit
  createDirectory : Path → ExceptT FileFailure m Unit
  isPresent : Path → m Bool
  isDirectory : Path → m Bool
  currentDirectory : ExceptT FileFailure m Path
  /-- The value of an environment variable, which need not be text. -/
  environment : String → m (Option Path)
  /-- The home directory that the system has on record for the user. -/
  accountHome : m (Option Path)
  /-- The next line of input with its line feed; empty at the end of the input. -/
  readLine : ExceptT FileFailure m ByteArray
  print : String → m Unit
  record : Record → m Unit

namespace Host

section Programs

variable {m : Type → Type} [Monad m] [Host m]

def log {ε : Type} (level : Level) (origin : Origin) (text : String) : ExceptT ε m Unit :=
  ExceptT.lift (record { level, origin, text })

def say {ε : Type} (text : String) : ExceptT ε m Unit :=
  ExceptT.lift (print text)

/-- Runs an operation whose failure ends the program, put into the program's terms. -/
def attempt {ε α : Type} (operation : ExceptT FileFailure m α) (failure : FileFailure → ε) :
    ExceptT ε m α :=
  operation.adapt failure

/-- The result of an operation as a value, so that the program goes on after a failure. -/
def outcome {ε α : Type} (operation : ExceptT FileFailure m α) :
    ExceptT ε m (Except FileFailure α) :=
  ExceptT.lift operation.run

def decode (bytes : ByteArray) : Except FileFailure String :=
  match String.fromUTF8? bytes with
  | some text => .ok text
  | none => .error .invalidText

def readText (path : Path) : ExceptT FileFailure m String := do
  decode (← readFile path)

/-- Replaces the content of a file, or creates the file. -/
def writeFile (path : Path) (text : String) : ExceptT FileFailure m Unit := do
  writeAll (← openFile path) text

/-- A directory that is there already is as good as a created one. -/
def unlessDirectory (path : Path) (failure : FileFailure) : ExceptT FileFailure m Unit := do
  if ← isDirectory (m := m) path then pure () else throw failure

/-- Creates a directory together with the missing ones above it, which follow it in
the list, innermost first. -/
def createDirectories : List Path → ExceptT FileFailure m Unit
  | [] => throw (.other "failed to create whole tree")
  | path :: above =>
      if path.bytes.isEmpty then pure ()
      else
        tryCatch (createDirectory path) fun
          | .notFound => do
              createDirectories above
              tryCatch (createDirectory path) (unlessDirectory path)
          | failure => unlessDirectory path failure

end Programs

end Host

end VersionStamp
