import VersionStamp.Command
import VersionStamp.Log.Output

/-! The program in its real surroundings. -/

namespace VersionStamp.Main

open VersionStamp.Files VersionStamp.Log

/-- The system's number of a failure, where it has one. -/
def number? : IO.Error → Option UInt32
  | .alreadyExists _ code _ | .otherError code _ | .resourceBusy code _ | .resourceVanished code _
  | .unsupportedOperation code _ | .hardwareFault code _ | .unsatisfiedConstraints code _
  | .illegalOperation code _ | .protocolError code _ | .timeExpired code _
  | .noFileOrDirectory _ code _ | .invalidArgument _ code _ | .permissionDenied _ code _
  | .resourceExhausted _ code _ | .inappropriateType _ code _ | .noSuchThing _ code _ => some code
  | .interrupted _ code _ => some code
  | .unexpectedEof | .userError _ => none

/-- Some operations count failures downwards from zero. -/
def unsigned (number : UInt32) : UInt32 :=
  if number < 0x80000000 then number else 0 - number

def fileError (failure : IO.Error) : FileFailure :=
  match (number? failure).map unsigned with
  | some 2 => .notFound
  | some 13 => .permissionDenied
  | some 17 => .alreadyExists
  | some 20 => .notADirectory
  | some 21 => .isADirectory
  | some 36 => .nameTooLong
  | some 40 => .tooManyLinks
  | _ => .other (toString failure)

/-- Programs in the real surroundings know how records are shown. -/
abbrev Session := ReaderT Output IO

def operate {α : Type} (operation : IO α) : ExceptT FileFailure Session α :=
  ExceptT.mk fun _ => do
    match ← operation.toBaseIO with
    | .ok result => return .ok result
    | .error failure => return .error (fileError failure)

/-- Runs an operation on a path that the system's interface can name. -/
def operateAt {α : Type} (path : Path) (operation : String → IO α) :
    ExceptT FileFailure Session α :=
  match path.toString? with
  | none => throw (.other "path contains invalid UTF-8 characters")
  | some text =>
      if text.contains '\x00' then throw .nulInName else operate (operation text)

/-- Whether a path leads to anything. -/
def leadsSomewhere (path : Path) : Session Bool := do
  match ← (operateAt path fun text => IO.FS.realPath text).run with
  | .ok _ => return !path.bytes.isEmpty
  | .error _ => return false

partial def readLineFrom (input : IO.FS.Stream) (line : ByteArray) : IO ByteArray := do
  let byte ← input.read 1
  let line := line ++ byte
  if byte.isEmpty || byte[0]! == 10 then return line else readLineFrom input line

instance : Host Session where
  Handle := IO.FS.Handle
  readFile path := operateAt path fun text => IO.FS.readBinFile text
  openFile path := operateAt path fun text => IO.FS.Handle.mk text .write
  createFile path := operateAt path fun text => IO.FS.Handle.mk text .writeNew
  writeAll handle content := operate do
    handle.putStr content
    handle.flush
  removeFile path := operateAt path fun text => IO.FS.removeFile text
  createDirectory path := operateAt path fun text => IO.FS.createDir text
  isPresent := leadsSomewhere
  isDirectory path :=
    if path.bytes.isEmpty then return false else leadsSomewhere (path.join ⟨Path.dot⟩)
  currentDirectory := operate do return Path.ofString (← IO.currentDir).toString
  environment name := do return (← IO.getEnv name).map Path.ofString
  accountHome := return none
  readLine := operate do readLineFrom (← IO.getStdin) .empty
  print text := do
    IO.print text
    (← IO.getStdout).flush
  record entry := do
    match (← read).show? entry with
    | some text => IO.eprint text
    | none => return

/-- What the environment holds of some variables. -/
def lookUpAll (names : List String) : IO (List (String × Path)) :=
  names.filterMapM fun name => do
    return (← IO.getEnv name).map fun value => (name, Path.ofString value)

end VersionStamp.Main

open VersionStamp in
def main : IO UInt32 := do
  let environment ← Main.lookUpAll Log.Output.consulted
  for remark in Log.Output.remarks environment do
    IO.eprintln remark
  (Command.run : Main.Session UInt32).run (.ofEnvironment environment)
