import VersionStamp.Dialogue
import VersionStamp.Files.Operations
import VersionStamp.Host

/-! Simulated surroundings.

A world is everything that a run can read or change. Running a program in a world
gives its result and the world it leaves.
-/

namespace VersionStamp

open VersionStamp.Files VersionStamp.Log VersionStamp.Release

/-- How a write into an opened file breaks off: after so many bytes, or before the last one
if there are no more. -/
structure Interruption where
  after : Nat
  cause : FileFailure

def Interruption.part (interruption : Interruption) (content : ByteArray) : ByteArray :=
  content.extract 0 (min interruption.after (content.size - 1))

structure World where
  files : FileSystem
  /-- The current directory. -/
  directory : Location
  /-- Which of the writes to come break off, counted from the next one. -/
  interruptions : Nat → Option Interruption := fun _ => none
  environment : List (String × Path) := []
  accountHome : Option Path := none
  /-- What is still unread of the input. -/
  input : List UInt8 := []
  /-- What a script still has to answer. -/
  answers : List (Except PromptFailure String) := []
  /-- The questions put to the script so far. -/
  asked : List Part := []
  printed : String := ""
  records : List Record := []

abbrev Simulation := StateM World

namespace World

/-- The bytes up to the first line feed, with it, and those after it. -/
def takeLine : List UInt8 → List UInt8 × List UInt8
  | [] => ([], [])
  | byte :: rest =>
      if byte = 10 then ([byte], rest)
      else
        let (line, others) := takeLine rest
        (byte :: line, others)

/-- A look at the world that leaves it as it is. -/
def inspect {ε α : Type} (look : World → Except ε α) : ExceptT ε Simulation α :=
  ExceptT.mk fun world => (look world, world)

/-- A change of the file system, or a failure that leaves the world as it is. -/
def change (operation : FileSystem → Location → Except FileFailure FileSystem) :
    ExceptT FileFailure Simulation Unit :=
  ExceptT.mk fun world =>
    match operation world.files world.directory with
    | .ok files => (.ok (), { world with files })
    | .error failure => (.error failure, world)

/-- The world with an empty file at a location. -/
def opened (world : World) (location : Location) : World :=
  { world with files := world.files.set location (.file .empty .full) }

/-- Opens the file at a location, with nothing in it, or fails and leaves the world as it
is. -/
def opening (locate : FileSystem → Location → Except FileFailure Location) :
    ExceptT FileFailure Simulation Location :=
  ExceptT.mk fun world =>
    match locate world.files world.directory with
    | .ok location => (.ok location, world.opened location)
    | .error failure => (.error failure, world)

/-- The writes that come after the next one. -/
def laterInterruptions (world : World) : Nat → Option Interruption :=
  fun count => world.interruptions (count + 1)

/-- The world after a write that has left this content in the file at a location. -/
def written (world : World) (location : Location) (content : ByteArray) : World :=
  { world with
    files := world.files.set location (.file content .full)
    interruptions := world.laterInterruptions }

/-- Writes into the file at a location, all of the content unless the write breaks off. -/
def fill (location : Location) (content : ByteArray) : ExceptT FileFailure Simulation Unit :=
  ExceptT.mk fun world =>
    match world.interruptions 0 with
    | none => (.ok (), world.written location content)
    | some interruption =>
        (.error interruption.cause, world.written location (interruption.part content))

instance : Host Simulation where
  Handle := Location
  readFile path := inspect fun world => world.files.read world.directory path
  openFile path := opening fun files here => files.writable here path
  createFile path := opening fun files here => files.creatable here path
  writeAll location text := fill location text.toUTF8
  removeFile path := change fun files here => files.remove here path
  createDirectory path := change fun files here => files.makeDirectory here path
  isPresent path := fun world => (world.files.isPresent world.directory path, world)
  isDirectory path := fun world => (world.files.isDirectory world.directory path, world)
  currentDirectory := inspect fun world => world.files.currentPath world.directory
  environment name := fun world => (world.environment.lookup name, world)
  accountHome := fun world => (world.accountHome, world)
  readLine := ExceptT.mk fun world =>
    let (line, input) := takeLine world.input
    (.ok ⟨line.toArray⟩, { world with input })
  print text := fun world => ((), { world with printed := world.printed ++ text })
  record entry := fun world => ((), { world with records := world.records ++ [entry] })

/-- The next answer of the script; a script that has run out is closed. -/
def answer (part : Part) : ExceptT PromptFailure Simulation String :=
  ExceptT.mk fun world =>
    let asked := world.asked ++ [part]
    match world.answers with
    | [] => (.error .closed, { world with asked })
    | outcome :: answers => (outcome, { world with asked, answers })

end World

end VersionStamp
