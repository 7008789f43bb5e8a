import VersionStamp.Log.Filter
import VersionStamp.Proofs.Artifact.LineByLine
import VersionStamp.Proofs.Files.Writing
import VersionStamp.Proofs.Stamping.Release

/-! What a run logs, against what it does.

The metadata file, every rewritten file, every tag that was missed and the end of a run have
one record each. A run that stops has the records of what it had done, and so the number of
rewritten files is the place of the target that it stopped at.
-/

namespace VersionStamp.Stamping

open VersionStamp.Artifact VersionStamp.Files VersionStamp.Log

def openingRecord (release : Release) : Record where
  level := .info
  origin := .stamping
  text := "Stamping version " ++ release.dottedForm ++ " (build " ++ release.buildNumber ++ ")"

def warningRecord (target : Target) : Record where
  level := .warn
  origin := .stamping
  text := "No line tagged " ++ Text.quoted target.line.tag ++ " found in " ++ target.path.display

def closingRecord : Record where
  level := .info
  origin := .stamping
  text := "Patched 10 target(s)"

@[simp] theorem level_openingRecord (release : Release) :
    (openingRecord release).level = .info := rfl

@[simp] theorem level_creationRecord (path : Path) : (creationRecord path).level = .info := rfl

@[simp] theorem level_rewriteRecord (rewrite : Target × Nat) :
    (rewriteRecord rewrite).level = .debug := rfl

@[simp] theorem level_warningRecord (target : Target) : (warningRecord target).level = .warn := rfl

@[simp] theorem level_closingRecord : closingRecord.level = .info := rfl

/-- Files rewritten one after another, each for a target, with the numbers of lines that were
replaced. -/
inductive Rewrites (here : Location) : FileSystem → List (Target × Nat) → FileSystem → Prop where
  | none (files : FileSystem) : Rewrites here files [] files
  | next {files middle after : FileSystem} {target : Target} {replaced : Nat}
      {others : List (Target × Nat)} {text : String}
      (read : files.readText here target.path = .ok text)
      (written : files.write here target.path
        (target.line.stampText text).content.toUTF8 = .ok middle)
      (counted : (target.line.stampText text).replaced = replaced)
      (rest : Rewrites here middle others after) :
      Rewrites here files ((target, replaced) :: others) after

/-- The ways a run can go from a world: what it ends in, the files it leaves, and its records
in their order. -/
inductive Course (locations : Locations) (release : Release) (before : World) :
    Except StampFailure Report → FileSystem → List Record → Prop where
  | notCreated {cause : FileFailure}
      (creation : before.files.creatable before.directory locations.metadata = .error cause) :
      Course locations release before (.error (creationFailure locations.metadata cause))
        before.files [openingRecord release]
  | partlyCreated {failure : StampFailure} {after : FileSystem}
      (broken : BreaksOff locations.metadata release before failure after) :
      Course locations release before (.error failure) after [openingRecord release]
  | stopped {created between after : FileSystem} {rewrites : List (Target × Nat)}
      {target : Target} {others : List Target} {failure : StampFailure}
      (creation : before.files.create before.directory locations.metadata
        (MetadataText.ofRelease release).toUTF8 = .ok created)
      (whole : before.interruptions 0 = none)
      (inOrder : targets locations.ofFile release = rewrites.map (·.1) ++ target :: others)
      (rewritten : Rewrites before.directory created rewrites between)
      (stops : Stops before.directory between (before.interruptions (rewrites.length + 1))
        target failure after) :
      Course locations release before (.error failure) after
        (openingRecord release :: creationRecord locations.metadata ::
          rewrites.map rewriteRecord)
  | finished {created after : FileSystem} {rewrites : List (Target × Nat)}
      (creation : before.files.create before.directory locations.metadata
        (MetadataText.ofRelease release).toUTF8 = .ok created)
      (whole : before.interruptions 0 = none)
      (inOrder : targets locations.ofFile release = rewrites.map (·.1))
      (rewritten : Rewrites before.directory created rewrites after) :
      Course locations release before
        (.ok { metadata := locations.metadata, targets := rewrites }) after
        (openingRecord release :: creationRecord locations.metadata ::
          (rewrites.map rewriteRecord ++
            ((rewrites.filter (·.2 == 0)).map fun missed => warningRecord missed.1) ++
            [closingRecord]))

variable {world after : World} {files left : FileSystem} {here : Location} {target : Target}
  {targets : List Target} {locations : Locations} {release : Release}
  {rewrites others : List (Target × Nat)} {failure : StampFailure} {records : List Record}

theorem Rewrites.split (rewritten : Rewrites here files (rewrites ++ others) left) :
    ∃ middle, Rewrites here files rewrites middle ∧ Rewrites here middle others left := by
  induction rewrites generalizing files with
  | nil => exact ⟨files, .none files, rewritten⟩
  | cons rewrite rewrites ih =>
      cases rewritten with
      | next read written counted rest =>
          obtain ⟨middle, first, last⟩ := ih rest
          exact ⟨middle, .next read written counted first, last⟩

theorem stampTarget_rewrites {replaced : Nat}
    (done : world.perform (stampTarget target) = (.ok replaced, after)) :
    (∀ others last, Rewrites world.directory after.files others last →
      Rewrites world.directory world.files ((target, replaced) :: others) last) ∧
    after.directory = world.directory ∧
    after.records = world.records ++ [rewriteRecord (target, replaced)] := by
  rcases stampTarget_cases world target with
    ⟨_, _, _, _, _, _, failed⟩ | ⟨text, location, read, opened, _, stamped⟩
  · cases done.symm.trans failed
  · cases done.symm.trans stamped
    exact ⟨fun others last => .next read (FileSystem.write_eq_ok_iff.mpr ⟨location, opened, rfl⟩)
      rfl, rfl, rfl⟩

/-- Stamping targets rewrites their files in order, with one record for each of them. -/
theorem stampTargets_rewrites {counts : List Nat}
    (done : world.perform (stampTargets targets) = (.ok counts, after)) :
    (targets.zip counts).map (·.1) = targets ∧
    Rewrites world.directory world.files (targets.zip counts) after.files ∧
    after.directory = world.directory ∧
    after.records = world.records ++ (targets.zip counts).map rewriteRecord := by
  induction targets generalizing world counts with
  | nil =>
      cases done
      exact ⟨rfl, .none _, rfl, by simp⟩
  | cons target others ih =>
      obtain ⟨replaced, rest, middle, first, remaining, rfl⟩ := stampTargets_cons_ok done
      obtain ⟨rewrite, here, record⟩ := stampTarget_rewrites first
      obtain ⟨inOrder, rewritten, restHere, restRecords⟩ := ih remaining
      rw [here] at rewritten
      refine ⟨by simp [inOrder], rewrite _ _ rewritten, restHere.trans here, ?_⟩
      rw [restRecords, record]
      simp

theorem perform_warnMissed (world : World) (missed : List Target) :
    world.perform (missed.forM warnMissed : ExceptT StampFailure Simulation Unit) =
      (.ok (), { world with records := world.records ++ missed.map warningRecord }) := by
  induction missed generalizing world with
  | nil => simp
  | cons target missed ih =>
      have step : (target :: missed).forM (m := ExceptT StampFailure Simulation) warnMissed =
          warnMissed target >>= fun _ => missed.forM warnMissed := rfl
      rw [step, World.perform_bind, warnMissed, World.perform_log]
      simp only [ih, List.map_cons, List.append_assoc]
      rfl

theorem stampAll_ok {counts : List Nat}
    (done : world.perform (stampTargets (Artifact.targets locations.ofFile release)) =
      (.ok counts, after)) :
    let rewrites := (Artifact.targets locations.ofFile release).zip counts
    world.perform (stampAll locations release) =
      (.ok { metadata := locations.metadata, targets := rewrites },
        { after with
          records := after.records ++
            ((rewrites.filter (·.2 == 0)).map (fun missed => warningRecord missed.1)) ++
              [closingRecord] }) := by
  intro rewrites
  have ten : rewrites.length = 10 := by
    rw [← length_targets locations.ofFile release, ← (stampTargets_rewrites done).1,
      List.length_map]
  rw [stampAll, World.perform_bind, done]
  dsimp only
  rw [World.perform_bind, perform_warnMissed]
  dsimp only
  rw [World.perform_bind, World.perform_log, ten, Report.missed, List.map_map]
  rfl

theorem stampAll_error
    (failed : world.perform (stampTargets (Artifact.targets locations.ofFile release)) =
      (.error failure, after)) :
    world.perform (stampAll locations release) = (.error failure, after) := by
  rw [stampAll, World.perform_bind, failed]

theorem stampTargets_stopped
    (failed : world.perform (stampTargets targets) = (.error failure, after)) :
    ∃ rewrites target others between, targets = rewrites.map (·.1) ++ target :: others ∧
      Rewrites world.directory world.files rewrites between ∧
      Stops world.directory between (world.interruptions rewrites.length) target failure
        after.files ∧
      after.records = world.records ++ rewrites.map rewriteRecord := by
  obtain ⟨index, target, counts, middle, there, done, fails⟩ := stampTargets_error failed
  obtain ⟨stops, _, records, _⟩ := stampTarget_error fails
  obtain ⟨inOrder, rewritten, here, stamped⟩ := stampTargets_rewrites done
  obtain ⟨inRange, rfl⟩ := List.getElem?_eq_some_iff.mp there
  have next : middle.interruptions 0 =
      world.interruptions ((targets.take index).zip counts).length := by
    rw [interruptions_zero_of_stampTargets done, List.length_zip, length_of_stampTargets done,
      Nat.min_self]
  rw [here, next] at stops
  refine ⟨(targets.take index).zip counts, targets[index], targets.drop (index + 1),
    middle.files, ?_, rewritten, stops, records.trans stamped⟩
  rw [inOrder, ← List.drop_eq_getElem_cons inRange, List.take_append_drop]

/-- Once the metadata file is there, a run goes the way of its targets. -/
theorem stampAll_course {begun : World}
    (creation : world.files.create world.directory locations.metadata
      (MetadataText.ofRelease release).toUTF8 = .ok begun.files)
    (whole : world.interruptions 0 = none)
    (here : begun.directory = world.directory)
    (later : begun.interruptions = world.laterInterruptions)
    (recorded : begun.records =
      world.records ++ [openingRecord release, creationRecord locations.metadata]) :
    ∃ records, (begun.perform (stampAll locations release)).2.records =
        world.records ++ records ∧
      Course locations release world (begun.perform (stampAll locations release)).1
        (begun.perform (stampAll locations release)).2.files records := by
  rcases outcome : begun.perform (stampTargets (Artifact.targets locations.ofFile release)) with
    ⟨failure | counts, after⟩
  · obtain ⟨rewrites, target, others, between, inOrder, rewritten, stops, records⟩ :=
      stampTargets_stopped outcome
    rw [here] at rewritten stops
    rw [later] at stops
    rw [stampAll_error outcome]
    exact ⟨_, by rw [records, recorded, List.append_assoc]; rfl,
      .stopped creation whole inOrder rewritten stops⟩
  · obtain ⟨inOrder, rewritten, _, records⟩ := stampTargets_rewrites outcome
    rw [here] at rewritten
    rw [stampAll_ok outcome]
    exact ⟨_, by simp only [records, recorded, List.append_assoc]; rfl,
      .finished creation whole inOrder.symm rewritten⟩

theorem stampRelease_course (world : World) (locations : Locations) (release : Release) :
    ∃ records, (world.perform (stampRelease locations release)).2.records =
        world.records ++ records ∧
      Course locations release world (world.perform (stampRelease locations release)).1
        (world.perform (stampRelease locations release)).2.files records := by
  have opened : world.perform (stampRelease locations release) =
      World.perform { world with records := world.records ++ [openingRecord release] }
        (createMetadata locations.metadata release >>= fun _ => stampAll locations release) := rfl
  rw [opened, World.perform_bind, perform_createMetadata]
  cases creation : world.files.creatable world.directory locations.metadata with
  | error cause =>
      exact ⟨_, rfl, .notCreated creation⟩
  | ok location =>
      have vacant := FileSystem.vacant_of_creatable creation
      cases next : world.interruptions 0 with
      | some interruption =>
          exact ⟨_, rfl, .partlyCreated (.inFile vacant creation next)⟩
      | none =>
          exact stampAll_course (FileSystem.create_eq_ok_iff.mpr ⟨location, creation, rfl⟩) next
            rfl rfl (List.append_assoc _ _ _)

/-- Whatever it comes from, a record for debugging passes a filter, and so does one that is
less verbose. -/
structure PassesDebug (filter : Filter) : Prop where
  pattern : filter.pattern = none
  limit : ∀ origin, ∃ directive, filter.deciding origin = some directive ∧
    Level.debug.verbosity ≤ directive.limit

theorem PassesDebug.shows {filter : Filter} (passes : PassesDebug filter) {record : Record}
    (level : record.level.verbosity ≤ Level.debug.verbosity) : filter.shows record = true := by
  obtain ⟨directive, deciding, limit⟩ := passes.limit record.origin
  simp [Filter.shows, deciding, passes.pattern, Nat.le_trans level limit]

namespace Course

variable {outcome : Except StampFailure Report}

theorem of_report {report : Report}
    (course : Course locations release world (.ok report) left records) :
    report.targets.map (·.1) = Artifact.targets locations.ofFile release ∧
    records.filter (·.level == .debug) = report.targets.map rewriteRecord ∧
    records.filter (·.level == .warn) = report.missed.map warningRecord ∧
    ∃ created, world.files.create world.directory locations.metadata
        (MetadataText.ofRelease release).toUTF8 = .ok created ∧
      Rewrites world.directory created report.targets left := by
  cases course with
  | finished creation whole inOrder rewritten =>
      refine ⟨inOrder.symm, ?_, ?_, _, creation, rewritten⟩
      · simp [List.filter_map, Function.comp_def]
      · simp [List.filter_map, Function.comp_def, Report.missed]

end Course

end VersionStamp.Stamping
