import VersionStamp.Proofs.Effects
import VersionStamp.Settings.File

/-! What settings are found by.

Looking for settings changes nothing but the log. What is found follows from the files, the
home directory on record and a few variables of the environment, so no other variable and
nothing that is typed has an influence on it.
-/

namespace VersionStamp

open VersionStamp.Files VersionStamp.Log

def Effect.logging : Effect where
  allows before after := ∃ records, after = { before with records }
  refl world := ⟨world.records, rfl⟩
  trans := by
    rintro before _ _ ⟨records, rfl⟩ ⟨more, rfl⟩
    exact ⟨more, rfl⟩

def Settings.consulted : List String := [fileVariable, "HOME", "XDG_CONFIG_HOME"]

/-- Worlds that agree on everything that settings are found by. -/
structure World.SameOutset (world other : World) : Prop extends world.SameFiles other where
  accountHome : world.accountHome = other.accountHome
  consulted : ∀ name ∈ Settings.consulted,
    world.environment.lookup name = other.environment.lookup name

/-- A program that changes the log alone and whose result follows from what settings are
found by. -/
structure FollowsOutset {ε α : Type} (program : ExceptT ε Simulation α) : Prop where
  logging : Effect.logging.Bounds program
  result : ∀ world other : World, world.SameOutset other →
    (world.perform program).1 = (other.perform program).1

variable {ε ε' α β : Type} {world other after otherAfter : World} {path : Path}

theorem World.SameOutset.logging (same : world.SameOutset other)
    (first : Effect.logging.allows world after) (second : Effect.logging.allows other otherAfter) :
    after.SameOutset otherAfter := by
  obtain ⟨_, rfl⟩ := first
  obtain ⟨_, rfl⟩ := second
  exact ⟨⟨same.files, same.directory, same.interruptions⟩, same.accountHome, same.consulted⟩

namespace FollowsOutset

variable {program : ExceptT ε Simulation α}

/-- A look at nothing else. -/
theorem of_look (look : World → Except ε α)
    (looks : ∀ world : World, world.perform program = (look world, world))
    (follows : ∀ world other : World, world.SameOutset other → look world = look other) :
    FollowsOutset program where
  logging world := by
    rw [looks]
    exact Effect.logging.refl world
  result world other same := by
    rw [looks, looks]
    exact follows world other same

theorem pure (result : α) : FollowsOutset (pure result : ExceptT ε Simulation α) :=
  of_look (fun _ => .ok result) (fun _ => rfl) fun _ _ _ => rfl

theorem throw (failure : ε) : FollowsOutset (throw failure : ExceptT ε Simulation α) :=
  of_look (fun _ => .error failure) (fun _ => rfl) fun _ _ _ => rfl

theorem bind {next : α → ExceptT ε Simulation β} (first : FollowsOutset program)
    (second : ∀ result, FollowsOutset (next result)) : FollowsOutset (program >>= next) where
  logging := first.logging.bind fun result => (second result).logging
  result world other same := by
    have results := first.result world other same
    have afterwards := same.logging (first.logging world) (first.logging other)
    rw [World.perform_bind, World.perform_bind]
    generalize world.perform program = one at results afterwards ⊢
    generalize other.perform program = two at results afterwards ⊢
    obtain ⟨outcome, left⟩ := one
    obtain ⟨_, right⟩ := two
    subst results
    cases outcome with
    | error failure => rfl
    | ok result => exact (second result).result left right afterwards

theorem adapt (follows : FollowsOutset program) (failure : ε → ε') :
    FollowsOutset (program.adapt failure) where
  logging := follows.logging.adapt failure
  result world other same := congrArg (Except.mapError failure) (follows.result world other same)

theorem log (level : Level) (origin : Origin) (text : String) :
    FollowsOutset (Host.log level origin text : ExceptT ε Simulation Unit) where
  logging := .log fun _ records => ⟨records, rfl⟩
  result _ _ _ := rfl

theorem readText (path : Path) :
    FollowsOutset (Host.readText path : ExceptT _ Simulation _) :=
  of_look _ (fun world => World.perform_readText world path)
    fun _ _ same => by rw [same.files, same.directory]

theorem isPresent (path : Path) :
    FollowsOutset (ExceptT.lift (Host.isPresent path) : ExceptT ε Simulation Bool) :=
  of_look (fun world => .ok (world.files.isPresent world.directory path)) (fun _ => rfl)
    fun _ _ same => by rw [same.files, same.directory]

theorem currentDirectory : FollowsOutset (Host.currentDirectory : ExceptT _ Simulation _) :=
  of_look (fun world => world.files.currentPath world.directory) (fun _ => rfl)
    fun _ _ same => by rw [same.files, same.directory]

theorem accountHome :
    FollowsOutset (ExceptT.lift Host.accountHome : ExceptT ε Simulation (Option Path)) :=
  of_look (fun world => .ok world.accountHome) (fun _ => rfl)
    fun _ _ same => by rw [same.accountHome]

theorem environment {name : String} (member : name ∈ Settings.consulted) :
    FollowsOutset (ExceptT.lift (Host.environment name) : ExceptT ε Simulation (Option Path)) :=
  of_look (fun world => .ok (world.environment.lookup name)) (fun _ => rfl)
    fun _ _ same => by rw [same.consulted name member]

end FollowsOutset

namespace Settings

theorem followsOutset_load (path : Path) :
    FollowsOutset (load path : ExceptT _ Simulation Settings) := by
  refine ((FollowsOutset.readText path).adapt _).bind fun text => ?_
  cases ofDocument? text with
  | none => exact .throw _
  | some settings => exact .pure settings

theorem followsOutset_loadIfPresent (path : Path) :
    FollowsOutset (loadIfPresent path : ExceptT _ Simulation Settings) := by
  refine (FollowsOutset.isPresent path).bind fun present => ?_
  cases present with
  | true => exact followsOutset_load path
  | false => exact (FollowsOutset.log _ _ _).bind fun _ => .pure _

theorem followsOutset_userFile :
    FollowsOutset (userFile : ExceptT _ Simulation Path) := by
  have home : FollowsOutset (home : ExceptT _ Simulation Path) := by
    refine (FollowsOutset.environment (by decide)).bind fun named => ?_
    refine FollowsOutset.accountHome.bind fun account => ?_
    cases (named.filter (!·.bytes.isEmpty)).or account with
    | none => exact .throw _
    | some home => exact .pure home
  have directory : FollowsOutset (userDirectory : ExceptT _ Simulation Path) :=
    home.bind fun _ => (FollowsOutset.environment (by decide)).bind fun _ => .pure _
  exact directory.bind fun _ => .pure _

/-- Which settings are in force is a matter of files and of the variables consulted. -/
theorem followsOutset_find : FollowsOutset (find : ExceptT _ Simulation Settings) := by
  refine (FollowsOutset.environment (by decide)).bind fun named => ?_
  cases named with
  | some path => exact (FollowsOutset.log _ _ _).bind fun _ => followsOutset_load path
  | none => exact followsOutset_userFile.bind followsOutset_loadIfPresent

theorem followsOutset_locations (settings : Settings) :
    FollowsOutset (settings.locations : ExceptT _ Simulation _) := by
  rw [locations]
  cases settings.baseDirectory with
  | some base => exact .pure _
  | none => exact (FollowsOutset.currentDirectory.adapt _).bind fun _ => .pure _

end Settings

end VersionStamp
