import VersionStamp.Proofs.Files.Changes

/-! Programs on files, in simulated worlds.

A file is opened and then written, and the write may break off. The programs here look at
the file system alone: what else a world holds changes neither what they give nor the
files they leave.
-/

namespace VersionStamp.World

open VersionStamp.Files VersionStamp.Log

variable {ε ε' α β : Type} {world other : World} {path : Path}

theorem perform_change (world : World)
    (operation : FileSystem → Location → Except FileFailure FileSystem) :
    world.perform (change operation) =
      match operation world.files world.directory with
      | .ok files => (.ok (), { world with files })
      | .error failure => (.error failure, world) := rfl

/-- Every write into an opened file goes to its end. The files alone do not decide this. -/
def WritesComplete (world : World) : Prop := ∀ count, world.interruptions count = none

theorem WritesComplete.interruptions_eq (complete : world.WritesComplete)
    (otherComplete : other.WritesComplete) : world.interruptions = other.interruptions :=
  funext fun count => (complete count).trans (otherComplete count).symm

theorem WritesComplete.later (complete : world.WritesComplete) :
    world.laterInterruptions = world.interruptions :=
  funext fun count => (complete (count + 1)).trans (complete count).symm

@[simp] theorem files_written (world : World) (location : Location) (content : ByteArray) :
    (world.written location content).files = world.files.set location (.file content .full) := rfl

theorem WritesComplete.written (complete : world.WritesComplete) (location : Location)
    (content : ByteArray) :
    world.written location content =
      { world with files := world.files.set location (.file content .full) } := by
  rw [World.written, complete.later]

theorem perform_opening (world : World)
    (locate : FileSystem → Location → Except FileFailure Location) :
    world.perform (opening locate) =
      match locate world.files world.directory with
      | .ok location => (.ok location, world.opened location)
      | .error failure => (.error failure, world) := rfl

theorem perform_fill (world : World) (location : Location) (content : ByteArray) :
    world.perform (fill location content) =
      match world.interruptions 0 with
      | none => (.ok (), world.written location content)
      | some interruption =>
          (.error interruption.cause, world.written location (interruption.part content)) := rfl

/-- What is written takes the place of the empty content of a file that was just opened. -/
theorem perform_fill_opened (world : World) (location : Location) (content : ByteArray) :
    (world.opened location).perform (fill location content) =
      world.perform (fill location content) := by
  have same (content : ByteArray) :
      (world.opened location).written location content = world.written location content := by
    simp only [written, opened, FileSystem.set_set]
    rfl
  rw [perform_fill, perform_fill, show (world.opened location).interruptions =
    world.interruptions from rfl]
  simp only [same]

theorem perform_writeFile (world : World) (path : Path) (text : String) :
    world.perform (Host.writeFile path text) =
      match world.files.writable world.directory path with
      | .ok location => world.perform (fill location text.toUTF8)
      | .error failure => (.error failure, world) := by
  have opened : world.perform (Host.openFile path) =
      world.perform (opening fun files here => files.writable here path) := rfl
  rw [Host.writeFile, perform_bind, opened, perform_opening]
  cases world.files.writable world.directory path with
  | error failure => rfl
  | ok location => exact perform_fill_opened world location text.toUTF8

theorem perform_createFile (world : World) (path : Path) :
    world.perform (Host.createFile path) =
      match world.files.creatable world.directory path with
      | .ok location => (.ok location, world.opened location)
      | .error failure => (.error failure, world) := rfl

theorem perform_writeAll (world : World) (location : Location) (text : String) :
    world.perform (Host.writeAll location text) = world.perform (fill location text.toUTF8) := rfl

theorem perform_removeFile (world : World) (path : Path) :
    world.perform (Host.removeFile path) =
      match world.files.remove world.directory path with
      | .ok files => (.ok (), { world with files })
      | .error failure => (.error failure, world) := rfl

theorem perform_readText (world : World) (path : Path) :
    world.perform (Host.readText path) =
      (world.files.readText world.directory path, world) := by
  have read : world.perform (Host.readFile path) =
      (world.files.read world.directory path, world) := rfl
  rw [Host.readText, perform_bind, read, FileSystem.readText]
  cases world.files.read world.directory path with
  | error failure => rfl
  | ok content => rfl

/-- Worlds with one file system and one current directory, in which the writes to come
break off alike. -/
structure SameFiles (world other : World) : Prop where
  files : world.files = other.files
  directory : world.directory = other.directory
  interruptions : world.interruptions = other.interruptions

namespace SameFiles

variable {further : World}

theorem refl (world : World) : world.SameFiles world := ⟨rfl, rfl, rfl⟩

theorem symm (same : world.SameFiles other) : other.SameFiles world :=
  ⟨same.files.symm, same.directory.symm, same.interruptions.symm⟩

theorem trans (first : world.SameFiles other) (second : other.SameFiles further) :
    world.SameFiles further :=
  ⟨first.files.trans second.files, first.directory.trans second.directory,
    first.interruptions.trans second.interruptions⟩

end SameFiles

/-- Runs that gave the same and left the same files. -/
structure SameEnd (one other : Except ε α × World) : Prop where
  result : one.1 = other.1
  world : one.2.SameFiles other.2

namespace SameEnd

variable {one two three : Except ε α × World}

theorem refl (one : Except ε α × World) : SameEnd one one := ⟨rfl, .refl one.2⟩

theorem symm (same : SameEnd one two) : SameEnd two one := ⟨same.result.symm, same.world.symm⟩

theorem trans (first : SameEnd one two) (second : SameEnd two three) : SameEnd one three :=
  ⟨first.result.trans second.result, first.world.trans second.world⟩

theorem exists_eq {outcome : Except ε α} (same : SameEnd one (outcome, world)) :
    ∃ after, one = (outcome, after) ∧ after.SameFiles world :=
  ⟨one.2, Prod.ext same.result rfl, same.world⟩

end SameEnd

/-- A program whose result and whose effect on the files follow from the files. -/
def FollowsFiles (program : ExceptT ε Simulation α) : Prop :=
  ∀ world other : World, world.SameFiles other →
    SameEnd (world.perform program) (other.perform program)

/-- Programs that ended alike still do after going on with what follows the files. -/
theorem SameEnd.bind {program otherProgram : ExceptT ε Simulation α}
    {next : α → ExceptT ε Simulation β}
    (same : SameEnd (world.perform program) (other.perform otherProgram))
    (follows : ∀ result, FollowsFiles (next result)) :
    SameEnd (world.perform (program >>= next)) (other.perform (otherProgram >>= next)) := by
  obtain ⟨results, after⟩ := same
  rw [perform_bind, perform_bind]
  generalize world.perform program = one at results after ⊢
  generalize other.perform otherProgram = two at results after ⊢
  obtain ⟨outcome, left⟩ := one
  obtain ⟨_, right⟩ := two
  subst results
  cases outcome with
  | error failure => exact ⟨rfl, after⟩
  | ok result => exact follows result left right after

namespace FollowsFiles

variable {program : ExceptT ε Simulation α}

theorem pure (result : α) : FollowsFiles (pure result : ExceptT ε Simulation α) :=
  fun _ _ same => ⟨rfl, same⟩

theorem throw (failure : ε) : FollowsFiles (throw failure : ExceptT ε Simulation α) :=
  fun _ _ same => ⟨rfl, same⟩

theorem bind {next : α → ExceptT ε Simulation β} (first : FollowsFiles program)
    (second : ∀ result, FollowsFiles (next result)) : FollowsFiles (program >>= next) :=
  fun world other same => (first world other same).bind second

theorem adapt (follows : FollowsFiles program) (failure : ε → ε') :
    FollowsFiles (program.adapt failure) := by
  intro world other same
  obtain ⟨results, after⟩ := follows world other same
  exact ⟨congrArg (Except.mapError failure) results, after⟩

theorem outcome {program : ExceptT FileFailure Simulation α} (follows : FollowsFiles program) :
    FollowsFiles (Host.outcome program : ExceptT ε Simulation _) := by
  intro world other same
  obtain ⟨results, after⟩ := follows world other same
  exact ⟨congrArg Except.ok results, after⟩

theorem log (level : Level) (origin : Origin) (text : String) :
    FollowsFiles (Host.log level origin text : ExceptT ε Simulation Unit) :=
  fun _ _ same => ⟨rfl, same.files, same.directory, same.interruptions⟩

theorem change (operation : FileSystem → Location → Except FileFailure FileSystem) :
    FollowsFiles (World.change operation) := by
  intro world other same
  rw [perform_change, perform_change, same.files, same.directory]
  cases operation other.files other.directory with
  | error failure => exact ⟨rfl, same⟩
  | ok files => exact ⟨rfl, rfl, rfl, same.interruptions⟩

theorem opening (locate : FileSystem → Location → Except FileFailure Location) :
    FollowsFiles (World.opening locate) := by
  intro world other same
  rw [perform_opening, perform_opening, same.files, same.directory]
  cases locate other.files other.directory with
  | error failure => exact ⟨rfl, same⟩
  | ok location =>
      have files : (world.opened location).files = (other.opened location).files := by
        simp only [World.opened, same.files]
      exact ⟨rfl, files, same.directory, same.interruptions⟩

theorem fill (location : Location) (content : ByteArray) :
    FollowsFiles (World.fill location content) := by
  intro world other same
  have written (content : ByteArray) :
      (world.written location content).SameFiles (other.written location content) :=
    ⟨by simp only [files_written, same.files], same.directory,
      congrArg (fun later count => later (count + 1)) same.interruptions⟩
  rw [perform_fill, perform_fill, same.interruptions]
  cases other.interruptions 0 with
  | none => exact ⟨rfl, written content⟩
  | some interruption => exact ⟨rfl, written (interruption.part content)⟩

theorem writeFile (path : Path) (text : String) :
    FollowsFiles (Host.writeFile path text : ExceptT _ Simulation _) :=
  (FollowsFiles.opening _).bind fun location => FollowsFiles.fill location text.toUTF8

theorem readText (path : Path) : FollowsFiles (Host.readText path : ExceptT _ Simulation _) := by
  intro world other same
  rw [perform_readText, perform_readText, same.files, same.directory]
  exact ⟨rfl, same⟩

theorem forM {program : β → ExceptT ε Simulation Unit}
    (follows : ∀ each, FollowsFiles (program each)) (list : List β) :
    FollowsFiles (list.forM program) := by
  induction list with
  | nil => exact FollowsFiles.pure ()
  | cons each rest ih => exact (follows each).bind fun _ => ih

end FollowsFiles

/-- A program that does nothing a file or a result shows. -/
def Quiet (program : ExceptT ε Simulation Unit) : Prop :=
  ∀ world : World, SameEnd (world.perform program) (.ok (), world)

namespace Quiet

variable {program : ExceptT ε Simulation Unit}

theorem log (level : Level) (origin : Origin) (text : String) :
    Quiet (Host.log level origin text : ExceptT ε Simulation Unit) :=
  fun _ => ⟨rfl, rfl, rfl, rfl⟩

theorem before {next : ExceptT ε Simulation α} (quiet : Quiet program)
    (follows : FollowsFiles next) (world : World) :
    SameEnd (world.perform (program >>= fun _ => next)) (world.perform next) := by
  have ended : SameEnd (world.perform program) (world.perform (pure ())) := quiet world
  exact ended.bind fun _ => follows

theorem forM {program : β → ExceptT ε Simulation Unit} (quiet : ∀ each, Quiet (program each))
    (follows : ∀ each, FollowsFiles (program each)) (list : List β) :
    Quiet (list.forM program) := by
  induction list with
  | nil => exact fun world => .refl _
  | cons each rest ih =>
      exact fun world => ((quiet each).before (.forM follows rest) world).trans (ih world)

end Quiet

end VersionStamp.World
