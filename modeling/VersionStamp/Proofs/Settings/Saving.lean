import VersionStamp.Proofs.Effects
import VersionStamp.Proofs.Files.Directories
import VersionStamp.Proofs.Settings.Document
import VersionStamp.Settings.File

/-! Saving settings.

Saving makes the directories above the file and writes the document; nothing else changes,
and a failure leaves at most some of the directories. What was written is what the path
leads to afterwards, and the document reads back as the settings.
-/

namespace VersionStamp

open VersionStamp.Files

/-- Directories that paths lead to are made, and nothing else of a world changes. -/
def Effect.makesWay (paths : List Path) : Effect where
  allows before after := ∃ files, after = { before with files } ∧
    before.files.MakesWay before.directory paths none files
  refl world := ⟨world.files, rfl, .refl ..⟩
  trans := by
    rintro before _ _ ⟨middle, rfl, first⟩ ⟨files, rfl, second⟩
    exact ⟨files, rfl, first.trans second⟩

namespace Settings

variable {world after : World} {settings : Settings} {path : Path} {text : String}

theorem makesWay_createDirectory {paths : List Path} (member : path ∈ paths) :
    (Effect.makesWay paths).Bounds (Host.createDirectory path : ExceptT _ Simulation _) :=
  Effect.Bounds.change fun _ files made => ⟨files, rfl, .makeDirectory member made⟩

theorem perform_unlessDirectory (world : World) (path : Path) (failure : FileFailure) :
    world.perform (Host.unlessDirectory path failure) =
      (if world.files.isDirectory world.directory path then .ok () else .error failure, world) := by
  have asked : world.perform (Host.unlessDirectory path failure) =
      world.perform (if world.files.isDirectory world.directory path then
        (pure () : ExceptT FileFailure Simulation Unit) else throw failure) := rfl
  rw [asked]
  split <;> rfl

theorem makesWay_unlessDirectory (paths : List Path) (path : Path) (failure : FileFailure) :
    (Effect.makesWay paths).Bounds
      (Host.unlessDirectory path failure : ExceptT _ Simulation _) := by
  intro world
  rw [perform_unlessDirectory]
  exact (Effect.makesWay paths).refl world

theorem makesWay_createDirectories {paths missing : List Path} (members : missing ⊆ paths) :
    (Effect.makesWay paths).Bounds
      (Host.createDirectories missing : ExceptT _ Simulation _) := by
  induction missing with
  | nil => exact .throw _
  | cons path above ih =>
      obtain ⟨member, others⟩ := List.cons_subset.mp members
      rw [Host.createDirectories]
      split
      · exact .pure ()
      · refine (makesWay_createDirectory member).tryCatch fun failure => ?_
        have again := (makesWay_createDirectory member).tryCatch
          (makesWay_unlessDirectory paths path)
        split
        · exact (ih others).bind fun _ => again
        · exact makesWay_unlessDirectory paths path failure

/-- Makes the directories above a file, if there are any. -/
def makeAncestors (path : Path) : ExceptT SettingsFailure Simulation Unit :=
  unless path.ancestors.isEmpty do
    Host.attempt (Host.createDirectories path.ancestors) .noDirectory

theorem makesWay_makeAncestors (path : Path) :
    (Effect.makesWay path.ancestors).Bounds (makeAncestors path) := by
  rw [makeAncestors]
  split
  · exact .pure ()
  · exact (makesWay_createDirectories (List.Subset.refl _)).adapt _

theorem save_eq (settings : Settings) (path : Path) :
    (settings.save path : ExceptT SettingsFailure Simulation Unit) =
      makeAncestors path >>= fun _ =>
        match settings.toDocument? with
        | some text => Host.attempt (Host.writeFile path text) .unwritable
        | none => throw .notText := by
  rw [save, makeAncestors]
  split <;> rfl

/-- Saving makes a way to the file. If it fails before the file is open, that is all it did.
Otherwise the document is written, or a part of it if the write breaks off. -/
theorem save_cases (settings : Settings) (path : Path) (world : World) :
    ∃ files, world.files.MakesWay world.directory path.ancestors none files ∧
      ((∃ failure, world.perform (settings.save path) = (.error failure, { world with files })) ∨
        ∃ text location, settings.toDocument? = some text ∧
          files.writable world.directory path = .ok location ∧
          world.perform (settings.save path) =
            match world.interruptions 0 with
            | none => (.ok (), World.written { world with files } location text.toUTF8)
            | some interruption => (.error (.unwritable interruption.cause),
                World.written { world with files } location (interruption.part text.toUTF8))) := by
  obtain ⟨files, same, makes⟩ := makesWay_makeAncestors path world
  refine ⟨files, makes, ?_⟩
  rw [save_eq, World.perform_bind]
  generalize world.perform (makeAncestors path) = made at same ⊢
  obtain ⟨failure | _, _⟩ := made <;> obtain rfl := same
  · exact .inl ⟨failure, rfl⟩
  · cases settings.toDocument? with
    | none => exact .inl ⟨.notText, rfl⟩
    | some text =>
        simp only [World.perform_attempt, World.perform_writeFile]
        cases opened : files.writable world.directory path with
        | error cause => exact .inl ⟨.unwritable cause, rfl⟩
        | ok location =>
            refine .inr ⟨text, location, rfl, rfl, ?_⟩
            simp only [World.perform_fill]
            cases world.interruptions 0 with
            | none => rfl
            | some interruption => rfl

theorem save_eq_ok (saved : world.perform (settings.save path) = (.ok (), after)) :
    ∃ (middle : World) (text : String), settings.toDocument? = some text ∧
      after.directory = middle.directory ∧
      middle.files.write middle.directory path text.toUTF8 = .ok after.files := by
  obtain ⟨files, _, ⟨failure, failed⟩ | ⟨text, location, told, opened, ended⟩⟩ :=
    save_cases settings path world
  · rw [failed] at saved
    cases saved
  · rw [ended] at saved
    cases next : world.interruptions 0 with
    | some interruption =>
        rw [next] at saved
        cases (Prod.mk.inj saved).1
    | none =>
        rw [next] at saved
        obtain rfl := (Prod.mk.inj saved).2
        have stored : files.write world.directory path text.toUTF8 = .ok _ :=
          FileSystem.write_eq_ok_iff.mpr ⟨location, opened, rfl⟩
        exact ⟨{ world with files }, text, told, rfl, stored⟩

theorem load_of_readText (read : world.files.readText world.directory path = .ok text)
    (meant : ofDocument? text = some settings) :
    world.perform (load path) = (.ok settings, world) := by
  rw [load, World.perform_bind, World.perform_attempt, World.perform_readText, read]
  simp only [mapError_ok, meant]
  rfl

theorem loadIfPresent_of_isPresent (present : world.files.isPresent world.directory path = true) :
    world.perform (loadIfPresent path) = world.perform (load path) := by
  have asked : world.perform (loadIfPresent path) =
      world.perform (if world.files.isPresent world.directory path then
        (load path : ExceptT SettingsFailure Simulation Settings)
      else do
        Host.log .info .settings ("No config at " ++ path.display ++ ", using defaults")
        return {}) := rfl
  rw [asked, if_pos present]

theorem save_of_not_text (untold : settings.toDocument? = none) (world : World) (path : Path) :
    ∃ failure, (world.perform (settings.save path)).1 = .error failure ∧
      world.files.GainsDirectories (world.perform (settings.save path)).2.files := by
  obtain ⟨files, makes, ⟨failure, failed⟩ | ⟨text, location, told, _⟩⟩ :=
    save_cases settings path world
  · rw [failed]
    exact ⟨failure, rfl, makes.gains⟩
  · rw [untold] at told
    cases told

/-- Settings whose base directory is text, if there is one, have a document that reads
back as these settings. Once it is saved, loading gives the settings again. With a base
directory that is no text saving fails, and at most directories are made. -/
theorem load_after_save (settings : Settings) (path : Path) (world : World) :
    ((∀ base, settings.baseDirectory = some base → base.toString?.isSome = true) →
      ∃ text, settings.toDocument? = some text ∧ ofDocument? text = some settings) ∧
    (∀ after, world.perform (settings.save path) = (.ok (), after) →
      after.perform (load path) = (.ok settings, after) ∧
      after.perform (loadIfPresent path) = (.ok settings, after)) ∧
    (∀ base, settings.baseDirectory = some base → base.toString? = none →
      ∃ failure, (world.perform (settings.save path)).1 = .error failure ∧
        world.files.GainsDirectories (world.perform (settings.save path)).2.files) := by
  refine ⟨fun valid => ?_, fun after saved => ?_, fun base present invalid => ?_⟩
  · obtain ⟨text, written⟩ := Option.isSome_iff_exists.mp ((isSome_toDocument? settings).mpr valid)
    exact ⟨text, written, ofDocument?_of_toDocument? written⟩
  · obtain ⟨middle, text, written, here, stored⟩ := save_eq_ok saved
    rw [← here] at stored
    have read := FileSystem.readText_after_write stored
    have loaded := load_of_readText read (ofDocument?_of_toDocument? written)
    have present := FileSystem.isPresent_after_write stored
    exact ⟨loaded, (loadIfPresent_of_isPresent present).trans loaded⟩
  · have untold : settings.toDocument? = none := by
      rw [← Option.not_isSome_iff_eq_none, isSome_toDocument?]
      intro valid
      have text := valid base present
      rw [invalid] at text
      contradiction
    exact save_of_not_text untold world path

/-- Runs of three quotes of both kinds, a leading line feed, line ends of both kinds and
control characters, saved below a directory that is missing. -/
theorem load_after_save_of_marks :
    let settings : Settings :=
      { baseDirectory := some (.ofString "\n\"\"\"a'''\r\nb\\")
        metadataFile := ""
        headerFile := "\"\"'\n''"
        primaryResource := "\x00\t\x7f\"\"\""
        updaterResource := "c:\\\"x'"
        buildNumber := { scheme := .prefixed, lead := "'\"" } }
    let path := Path.ofString "nested/config.toml"
    let world : World := { files := .empty, directory := [] }
    let undecodable : Settings := { baseDirectory := some ⟨[255]⟩ }
    (∃ text, settings.toDocument? = some text ∧ ofDocument? text = some settings) ∧
    (∃ after, world.perform (settings.save path) = (.ok (), after) ∧
      after.perform (load path) = (.ok settings, after) ∧
      after.perform (loadIfPresent path) = (.ok settings, after)) ∧
    ∃ failure, (world.perform (undecodable.save path)).1 = .error failure ∧
      world.files.GainsDirectories (world.perform (undecodable.save path)).2.files := by
  intro settings path world undecodable
  have valid : ∀ base, settings.baseDirectory = some base → base.toString?.isSome = true := by
    rintro base ⟨⟩
    decide +kernel
  have saved : (world.perform (settings.save path)).1 = .ok () := by decide +kernel
  obtain ⟨written, loaded, _⟩ := load_after_save settings path world
  rcases ended : world.perform (settings.save path) with ⟨outcome, after⟩
  rw [ended] at saved
  subst saved
  exact ⟨written valid, ⟨after, rfl, loaded after ended⟩,
    (load_after_save undecodable path world).2.2 ⟨[255]⟩ rfl (by decide +kernel)⟩

/-- A save that fails leaves every entry as it was, and what is new are directories on the
way to the file. One that succeeds does no more than that at all places but one, which is
where the path leads and where the document is then. -/
theorem save_changes (settings : Settings) (path : Path) {world : World}
    (complete : world.WritesComplete) :
    (∀ failure after, world.perform (settings.save path) = (.error failure, after) →
      ∃ files, after = { world with files } ∧
        world.files.MakesWay world.directory path.ancestors none files) ∧
    (∀ after, world.perform (settings.save path) = (.ok (), after) →
      ∃ files text location, after = { world with files } ∧ settings.toDocument? = some text ∧
        world.files.MakesWay world.directory path.ancestors (some location) files ∧
        (world.files.stored? location = none ∨
          ∃ old, world.files.stored? location = some (.file old .full)) ∧
        (∀ found entry, world.files.find world.directory path = .ok (found, entry) →
          found = location) ∧
        files.find world.directory path = .ok (location, .file text.toUTF8 .full)) := by
  obtain ⟨files, makes, ⟨failure, failed⟩ | ⟨text, location, told, opened, done⟩⟩ :=
    save_cases settings path world
  · rw [failed]
    refine ⟨fun _ _ ended => ?_, fun _ ended => ?_⟩ <;> cases ended
    exact ⟨files, rfl, makes⟩
  · have ready : World.WritesComplete { world with files } := complete
    rw [complete 0] at done
    rw [done]
    refine ⟨fun _ _ ended => ?_, fun _ ended => ?_⟩ <;> cases ended
    have stored : files.write world.directory path text.toUTF8 = .ok _ :=
      FileSystem.write_eq_ok_iff.mpr ⟨location, opened, rfl⟩
    obtain ⟨written, changes⟩ := makes.write stored
    exact ⟨_, text, written, ready.written location text.toUTF8, told, changes⟩

/-- Two directories are made behind a link, one of which only dots lead past, before it shows
that the base directory is no text. -/
theorem save_changes_behind_link :
    let outer := (Path.ofString "d").bytes
    let inner := (Path.ofString "more").bytes
    let files := (FileSystem.empty.set [outer] (.directory .full)).set
      [(Path.ofString "l").bytes] (.link (.ofString "d"))
    let path := Path.ofString "l/new/../more/config.toml"
    let settings : Settings := { buildNumber := { scheme := .prefixed, lead := "1" } }
    let undecodable : Settings := { baseDirectory := some ⟨[255]⟩ }
    let world : World := { files, directory := [] }
    world.WritesComplete ∧
    (∃ after, world.perform (undecodable.save path) =
        (.error .notText, { world with files := after }) ∧
      files.MakesWay [] path.ancestors none after ∧
      ∃ parent ∈ path.ancestors,
        after.find [] parent = .ok ([inner, outer], .directory .full)) ∧
    ∃ after text location,
      world.perform (settings.save path) = (.ok (), { world with files := after }) ∧
      settings.toDocument? = some text ∧
      files.MakesWay [] path.ancestors (some location) after ∧
      after.find [] path = .ok (location, .file text.toUTF8 .full) := by
  intro outer inner files path settings undecodable world
  have complete : world.WritesComplete := fun _ => rfl
  have failed : (world.perform (undecodable.save path)).1 = .error .notText := by decide +kernel
  have made : ((world.perform (undecodable.save path)).2.files.stored?
      [inner, outer]).isSome = true := by
    decide +kernel
  have saved : (world.perform (settings.save path)).1 = .ok () := by decide +kernel
  rcases refusal : world.perform (undecodable.save path) with ⟨outcome, left⟩
  rcases success : world.perform (settings.save path) with ⟨done, after⟩
  rw [refusal] at failed made
  rw [success] at saved
  subst failed saved
  obtain ⟨unfinished, rfl, makes⟩ := (save_changes undecodable path complete).1 _ left refusal
  obtain ⟨changed, text, location, rfl, told, changes, _, _, found⟩ :=
    (save_changes settings path complete).2 after success
  have vacant : files.stored? [inner, outer] = none :=
    Option.isNone_iff_eq_none.mp (by decide +kernel)
  obtain ⟨_, parent, member, leads⟩ :=
    makes.made _ (by simp) vacant (Option.isSome_iff_ne_none.mp made)
  exact ⟨complete, ⟨unfinished, rfl, makes, parent, member, leads⟩,
    changed, text, location, rfl, told, changes, found⟩

end Settings

end VersionStamp
