import VersionStamp.Proofs.Artifact.FirstTag
import VersionStamp.Proofs.Worlds
import VersionStamp.Stamping.Run

/-! How far stamping targets gets.

A target changes the one file its path finds, or stops the run. Targets are stamped in order
up to the first that stops. Which one that is follows from the outline of the file system and
the paths, and from which writes break off.
-/

namespace VersionStamp.Stamping

open VersionStamp.Artifact VersionStamp.Files VersionStamp.Log

/-- The record of a rewritten file, with the number of lines replaced in it. -/
def rewriteRecord (rewrite : Target × Nat) : Record where
  level := .debug
  origin := .lines
  text := "Patched " ++ toString rewrite.2 ++ " line(s) tagged " ++
    Text.quoted rewrite.1.line.tag ++ " in " ++ rewrite.1.path.display

/-- Why a target stops a run, and the files that it leaves. What cannot be read or opened
stays as it is; a write that breaks off leaves a part of the new text. -/
inductive Stops (here : Location) (files : FileSystem) (next : Option Interruption)
    (target : Target) : StampFailure → FileSystem → Prop where
  | unreadable {cause : FileFailure} (read : files.readText here target.path = .error cause) :
      Stops here files next target (.readTarget target.path cause) files
  | unwritable {text : String} {cause : FileFailure}
      (read : files.readText here target.path = .ok text)
      (refused : files.writable here target.path = .error cause) :
      Stops here files next target (.writeTarget target.path cause) files
  | brokenOff {text : String} {location : Location} {interruption : Interruption}
      (read : files.readText here target.path = .ok text)
      (opened : files.writable here target.path = .ok location)
      (breaks : next = some interruption) :
      Stops here files next target (.writeTarget target.path interruption.cause)
        (files.set location
          (.file (interruption.part (target.line.stampText text).content.toUTF8) .full))

/-- The file that a path leads to is a text and can be opened for writing. -/
def IsStampable (files : FileSystem) (here : Location) (path : Path) : Prop :=
  (∃ text, files.readText here path = .ok text) ∧
    ∃ location, files.writable here path = .ok location

variable {world other after : World} {files left : FileSystem} {here : Location}
  {next : Option Interruption} {target : Target} {targets : List Target}
  {failure : StampFailure}

theorem Stops.path_eq (stops : Stops here files next target failure left) :
    ∃ cause, failure = .readTarget target.path cause ∨ failure = .writeTarget target.path cause := by
  cases stops with
  | unreadable read => exact ⟨_, .inl rfl⟩
  | unwritable read refused => exact ⟨_, .inr rfl⟩
  | brokenOff read opened breaks => exact ⟨_, .inr rfl⟩

theorem isStampable_alike {others : FileSystem} (alike : files.Alike others) (here : Location)
    (path : Path) : IsStampable files here path ↔ IsStampable others here path := by
  rw [IsStampable, IsStampable, alike.writable]
  rcases alike.readText here path with
    ⟨cause, first, second⟩ | ⟨text, otherText, first, second⟩
  · simp [first, second]
  · simp [first, second]

theorem IsStampable.find {path : Path} (stampable : IsStampable files here path) :
    ∃ location text, files.find here path = .ok (location, .file (String.toUTF8 text) .full) := by
  obtain ⟨⟨text, read⟩, place, opened⟩ := stampable
  obtain ⟨location, access, found⟩ := FileSystem.readText_eq_ok read
  obtain ⟨_, _, same⟩ := FileSystem.find_of_writable opened found
  cases same
  exact ⟨location, text, found⟩

theorem perform_stampTarget (world : World) (target : Target) :
    world.perform (stampTarget target) =
      match world.files.readText world.directory target.path with
      | .error cause => (.error (.readTarget target.path cause), world)
      | .ok text =>
          let stamped := target.line.stampText text
          match world.files.writable world.directory target.path with
          | .error cause => (.error (.writeTarget target.path cause), world)
          | .ok location =>
              match world.interruptions 0 with
              | some interruption => (.error (.writeTarget target.path interruption.cause),
                  world.written location (interruption.part stamped.content.toUTF8))
              | none => (.ok stamped.replaced,
                  { world.written location stamped.content.toUTF8 with
                    records := world.records ++ [rewriteRecord (target, stamped.replaced)] }) := by
  rw [stampTarget, World.perform_bind, World.perform_attempt, World.perform_readText]
  cases world.files.readText world.directory target.path with
  | error cause => rfl
  | ok text =>
      simp only [mapError_ok, World.perform_bind, World.perform_attempt,
        World.perform_writeFile]
      cases world.files.writable world.directory target.path with
      | error cause => rfl
      | ok location =>
          simp only [World.perform_fill]
          cases world.interruptions 0 with
          | some interruption => rfl
          | none => rfl

theorem stampTarget_cases (world : World) (target : Target) :
    (∃ failure after,
      Stops world.directory world.files (world.interruptions 0) target failure after.files ∧
      after.directory = world.directory ∧ after.records = world.records ∧
      (world.interruptions 0 = none → after = world) ∧
      world.perform (stampTarget target) = (.error failure, after)) ∨
    ∃ text location, world.files.readText world.directory target.path = .ok text ∧
      world.files.writable world.directory target.path = .ok location ∧
      world.interruptions 0 = none ∧
      world.perform (stampTarget target) = (.ok (target.line.stampText text).replaced,
        { world.written location (target.line.stampText text).content.toUTF8 with
          records := world.records ++
            [rewriteRecord (target, (target.line.stampText text).replaced)] }) := by
  rw [perform_stampTarget]
  cases read : world.files.readText world.directory target.path with
  | error cause => exact .inl ⟨_, world, .unreadable read, rfl, rfl, fun _ => rfl, rfl⟩
  | ok text =>
      cases opened : world.files.writable world.directory target.path with
      | error cause => exact .inl ⟨_, world, .unwritable read opened, rfl, rfl, fun _ => rfl, rfl⟩
      | ok location =>
          cases breaks : world.interruptions 0 with
          | some interruption =>
              let part := interruption.part (target.line.stampText text).content.toUTF8
              exact .inl ⟨_, world.written location part, .brokenOff read opened rfl, rfl, rfl,
                nofun, rfl⟩
          | none => exact .inr ⟨text, location, rfl, rfl, rfl, rfl⟩

/-- A stamped target has rewritten the file that its path finds, and nothing else. -/
theorem stampTarget_ok {replaced : Nat}
    (done : world.perform (stampTarget target) = (.ok replaced, after)) :
    after.directory = world.directory ∧ ∃ location text,
      world.files.find world.directory target.path = .ok (location, .file text.toUTF8 .full) ∧
      after.files = world.files.set location
        (.file (target.line.stampText text).content.toUTF8 .full) ∧
      replaced = (target.line.stampText text).replaced := by
  rcases stampTarget_cases world target with
    ⟨_, _, _, _, _, _, failed⟩ | ⟨text, place, read, opened, _, stamped⟩
  · cases done.symm.trans failed
  · cases done.symm.trans stamped
    obtain ⟨location, access, found⟩ := FileSystem.readText_eq_ok read
    obtain ⟨rfl, old, same⟩ := FileSystem.find_of_writable opened found
    cases same
    exact ⟨rfl, location, text, found, rfl, rfl⟩

theorem stampTarget_ok_interruptions {replaced : Nat}
    (done : world.perform (stampTarget target) = (.ok replaced, after)) :
    world.interruptions 0 = none ∧ after.interruptions = world.laterInterruptions := by
  rcases stampTarget_cases world target with
    ⟨_, _, _, _, _, _, failed⟩ | ⟨text, place, _, _, next, stamped⟩
  · cases done.symm.trans failed
  · cases done.symm.trans stamped
    exact ⟨next, rfl⟩

theorem stampTarget_error
    (failed : world.perform (stampTarget target) = (.error failure, after)) :
    Stops world.directory world.files (world.interruptions 0) target failure after.files ∧
      after.directory = world.directory ∧ after.records = world.records ∧
      (world.interruptions 0 = none → after = world) := by
  rcases stampTarget_cases world target with
    ⟨_, _, stops, here, records, same, stopped⟩ | ⟨_, _, _, _, _, stamped⟩
  · cases failed.symm.trans stopped
    exact ⟨stops, here, records, same⟩
  · cases failed.symm.trans stamped

/-- Whether a target can be stamped does not depend on its line or on any text. -/
theorem exists_stampTarget_ok_iff :
    (∃ replaced after, world.perform (stampTarget target) = (.ok replaced, after)) ↔
      IsStampable world.files world.directory target.path ∧ world.interruptions 0 = none := by
  constructor
  · rintro ⟨replaced, after, done⟩
    rcases stampTarget_cases world target with
      ⟨_, _, _, _, _, _, failed⟩ | ⟨text, location, read, opened, next, _⟩
    · cases done.symm.trans failed
    · exact ⟨⟨⟨text, read⟩, location, opened⟩, next⟩
  · rintro ⟨⟨⟨text, read⟩, location, opened⟩, next⟩
    rw [perform_stampTarget]
    simp only [read, opened, next]
    exact ⟨_, _, rfl⟩

theorem perform_stampTargets_cons (world : World) (target : Target) (others : List Target) :
    world.perform (stampTargets (target :: others)) =
      match world.perform (stampTarget target) with
      | (.error failure, after) => (.error failure, after)
      | (.ok replaced, after) =>
          match after.perform (stampTargets others) with
          | (.error failure, last) => (.error failure, last)
          | (.ok counts, last) => (.ok (replaced :: counts), last) := by
  rw [stampTargets, World.perform_bind]
  rcases world.perform (stampTarget target) with ⟨failure | replaced, after⟩
  · rfl
  · simp only [World.perform_bind]
    rcases after.perform (stampTargets others) with ⟨failure | counts, last⟩ <;> rfl

theorem perform_stampTargets_append (world : World) (first others : List Target) :
    world.perform (stampTargets (first ++ others)) =
      match world.perform (stampTargets first) with
      | (.error failure, after) => (.error failure, after)
      | (.ok counts, after) =>
          match after.perform (stampTargets others) with
          | (.error failure, last) => (.error failure, last)
          | (.ok more, last) => (.ok (counts ++ more), last) := by
  induction first generalizing world with
  | nil =>
      simp only [List.nil_append, stampTargets, World.perform_pure]
      rcases world.perform (stampTargets others) with ⟨failure | counts, last⟩ <;> rfl
  | cons target first ih =>
      rw [List.cons_append, perform_stampTargets_cons, perform_stampTargets_cons]
      rcases world.perform (stampTarget target) with ⟨failure | replaced, after⟩
      · rfl
      · simp only [ih after]
        rcases after.perform (stampTargets first) with ⟨failure | counts, middle⟩
        · rfl
        · simp only
          rcases middle.perform (stampTargets others) with ⟨failure | more, last⟩ <;> rfl

theorem stampTargets_cons_ok {others : List Target} {counts : List Nat}
    (done : world.perform (stampTargets (target :: others)) = (.ok counts, after)) :
    ∃ replaced rest middle, world.perform (stampTarget target) = (.ok replaced, middle) ∧
      middle.perform (stampTargets others) = (.ok rest, after) ∧ counts = replaced :: rest := by
  rw [perform_stampTargets_cons] at done
  rcases first : world.perform (stampTarget target) with ⟨failure | replaced, middle⟩
  · simp [first] at done
  · rcases second : middle.perform (stampTargets others) with ⟨failure | rest, last⟩
    · simp [first, second] at done
    · simp only [first, second, Prod.mk.injEq, Except.ok.injEq] at done
      obtain ⟨rfl, rfl⟩ := done
      exact ⟨replaced, rest, middle, rfl, second, rfl⟩

/-- Stamping that failed has stamped the targets before the one that failed, and that
target fails in the world they left. -/
theorem stampTargets_error
    (failed : world.perform (stampTargets targets) = (.error failure, after)) :
    ∃ index target counts middle, targets[index]? = some target ∧
      world.perform (stampTargets (targets.take index)) = (.ok counts, middle) ∧
      middle.perform (stampTarget target) = (.error failure, after) := by
  induction targets generalizing world with
  | nil => cases failed
  | cons target others ih =>
      rw [perform_stampTargets_cons] at failed
      rcases first : world.perform (stampTarget target) with ⟨cause | replaced, middle⟩
      · simp only [first, Prod.mk.injEq, Except.error.injEq] at failed
        obtain ⟨rfl, rfl⟩ := failed
        exact ⟨0, target, [], world, rfl, rfl, first⟩
      · rcases second : middle.perform (stampTargets others) with ⟨cause | counts, last⟩
        · simp only [first, second, Prod.mk.injEq, Except.error.injEq] at failed
          obtain ⟨rfl, rfl⟩ := failed
          obtain ⟨index, stopped, counts, left, there, before, stops⟩ := ih second
          refine ⟨index + 1, stopped, replaced :: counts, left, there, ?_, stops⟩
          rw [List.take_succ_cons, perform_stampTargets_cons, first]
          simp only [before]
        · simp [first, second] at failed

theorem stampTarget_ok_alike {replaced : Nat}
    (done : world.perform (stampTarget target) = (.ok replaced, after)) :
    after.directory = world.directory ∧ after.files.Alike world.files := by
  obtain ⟨here, location, text, found, changed, _⟩ := stampTarget_ok done
  rw [changed]
  exact ⟨here, .of_set (FileSystem.stored?_of_find found) _⟩

theorem stampTargets_ok_alike {counts : List Nat}
    (done : world.perform (stampTargets targets) = (.ok counts, after)) :
    after.directory = world.directory ∧ after.files.Alike world.files := by
  induction targets generalizing world counts with
  | nil =>
      cases done
      exact ⟨rfl, .refl _⟩
  | cons target others ih =>
      obtain ⟨_, _, middle, first, rest, _⟩ := stampTargets_cons_ok done
      obtain ⟨firstHere, firstAlike⟩ := stampTarget_ok_alike first
      obtain ⟨restHere, restAlike⟩ := ih rest
      exact ⟨restHere.trans firstHere, restAlike.trans firstAlike⟩

theorem stampTargets_ok_interruptions {counts : List Nat}
    (done : world.perform (stampTargets targets) = (.ok counts, after)) :
    after.interruptions = fun count => world.interruptions (count + targets.length) := by
  induction targets generalizing world counts with
  | nil =>
      cases done
      rfl
  | cons target others ih =>
      obtain ⟨_, _, middle, first, rest, _⟩ := stampTargets_cons_ok done
      rw [ih rest, (stampTarget_ok_interruptions first).2]
      rfl

theorem interruptions_zero_of_stampTargets {counts : List Nat}
    (done : world.perform (stampTargets targets) = (.ok counts, after)) :
    after.interruptions 0 = world.interruptions targets.length := by
  simp only [stampTargets_ok_interruptions done, Nat.zero_add]

theorem length_of_stampTargets {counts : List Nat}
    (done : world.perform (stampTargets targets) = (.ok counts, after)) :
    counts.length = targets.length := by
  induction targets generalizing world counts with
  | nil =>
      cases done
      rfl
  | cons target others ih =>
      obtain ⟨_, _, _, _, remaining, rfl⟩ := stampTargets_cons_ok done
      rw [List.length_cons, List.length_cons, ih remaining]

/-- Whether targets can be stamped is a matter of each of them alone, as long as no write
breaks off. -/
theorem exists_stampTargets_ok_iff :
    (∃ counts after, world.perform (stampTargets targets) = (.ok counts, after)) ↔
      (∀ target ∈ targets, IsStampable world.files world.directory target.path) ∧
        ∀ count < targets.length, world.interruptions count = none := by
  induction targets generalizing world with
  | nil => simp [stampTargets]
  | cons target others ih =>
      have carries {replaced : Nat} {middle : World}
          (first : world.perform (stampTarget target) = (.ok replaced, middle)) :
          (∃ counts after, middle.perform (stampTargets others) = (.ok counts, after)) ↔
            (∀ other ∈ others, IsStampable world.files world.directory other.path) ∧
              ∀ count < others.length, world.interruptions (count + 1) = none := by
        obtain ⟨here, alike⟩ := stampTarget_ok_alike first
        rw [ih, (stampTarget_ok_interruptions first).2, here]
        simp only [isStampable_alike alike, World.laterInterruptions]
      rw [List.forall_mem_cons, List.length_cons, Nat.forall_lt_succ_left]
      constructor
      · rintro ⟨counts, after, done⟩
        obtain ⟨replaced, rest, middle, first, remaining, _⟩ := stampTargets_cons_ok done
        obtain ⟨stampable, next⟩ := exists_stampTarget_ok_iff.mp ⟨replaced, middle, first⟩
        obtain ⟨each, later⟩ := (carries first).mp ⟨rest, after, remaining⟩
        exact ⟨⟨stampable, each⟩, next, later⟩
      · rintro ⟨⟨stampable, each⟩, next, later⟩
        obtain ⟨replaced, middle, first⟩ := exists_stampTarget_ok_iff.mpr ⟨stampable, next⟩
        obtain ⟨rest, after, remaining⟩ := (carries first).mpr ⟨each, later⟩
        refine ⟨replaced :: rest, after, ?_⟩
        rw [perform_stampTargets_cons, first]
        simp only [remaining]

/-- Targets that can be stamped in one file system can be stamped in every one like it,
with any lines. -/
theorem exists_stampTargets_ok {others : List Target} {counts : List Nat}
    (alike : world.files.Alike other.files) (here : world.directory = other.directory)
    (interruptions : world.interruptions = other.interruptions)
    (paths : targets.map (·.path) = others.map (·.path))
    (done : world.perform (stampTargets targets) = (.ok counts, after)) :
    ∃ otherCounts otherAfter,
      other.perform (stampTargets others) = (.ok otherCounts, otherAfter) := by
  obtain ⟨each, complete⟩ := exists_stampTargets_ok_iff.mp ⟨counts, after, done⟩
  have lengths : targets.length = others.length := by simpa using congrArg List.length paths
  refine exists_stampTargets_ok_iff.mpr ⟨fun otherTarget member => ?_, ?_⟩
  · obtain ⟨target, chosen, path⟩ : ∃ target ∈ targets, target.path = otherTarget.path := by
      rw [← List.mem_map, paths]
      exact List.mem_map_of_mem member
    rw [← here, ← path]
    exact (isStampable_alike alike world.directory target.path).mp (each target chosen)
  · rwa [← interruptions, ← lengths]

theorem followsFiles_stampTarget (target : Target) :
    World.FollowsFiles (stampTarget target : ExceptT _ Simulation _) := by
  refine ((World.FollowsFiles.readText _).adapt _).bind fun content => ?_
  refine ((World.FollowsFiles.writeFile _ _).adapt _).bind fun _ => ?_
  exact (World.FollowsFiles.log _ _ _).bind fun _ => .pure _

theorem followsFiles_stampTargets (targets : List Target) :
    World.FollowsFiles (stampTargets targets : ExceptT _ Simulation _) := by
  induction targets with
  | nil => exact .pure []
  | cons target others ih =>
      exact (followsFiles_stampTarget target).bind fun _ => ih.bind fun _ => .pure _

end VersionStamp.Stamping
