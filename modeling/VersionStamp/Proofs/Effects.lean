import VersionStamp.Proofs.Worlds

/-! What programs do to a world at most.

An effect is a relation of the worlds before and after a program. Programs that are put
together have an effect that each of their parts has, whatever the outcome of the parts.
-/

namespace VersionStamp

open VersionStamp.Files VersionStamp.Log

structure Effect where
  allows : World → World → Prop
  refl : ∀ world, allows world world
  trans : ∀ {before middle after}, allows before middle → allows middle after →
    allows before after

namespace Effect

variable {ε ε' α β : Type} {effect : Effect} {program : ExceptT ε Simulation α}

/-- Whatever world a program is run in, its effect on it is allowed. -/
def Bounds (effect : Effect) (program : ExceptT ε Simulation α) : Prop :=
  ∀ world : World, effect.allows world (world.perform program).2

namespace Bounds

theorem pure (result : α) : effect.Bounds (pure result : ExceptT ε Simulation α) :=
  fun world => effect.refl world

theorem throw (failure : ε) : effect.Bounds (throw failure : ExceptT ε Simulation α) :=
  fun world => effect.refl world

theorem bind {next : α → ExceptT ε Simulation β} (first : effect.Bounds program)
    (second : ∀ result, effect.Bounds (next result)) : effect.Bounds (program >>= next) := by
  intro world
  have before := first world
  rw [World.perform_bind]
  generalize world.perform program = done at before ⊢
  obtain ⟨failure | result, after⟩ := done
  · exact before
  · exact effect.trans before (second result after)

theorem adapt (bounded : effect.Bounds program) (failure : ε → ε') :
    effect.Bounds (program.adapt failure) :=
  bounded

theorem outcome {program : ExceptT FileFailure Simulation α} (bounded : effect.Bounds program) :
    effect.Bounds (Host.outcome program : ExceptT ε Simulation _) :=
  bounded

theorem tryCatch {handler : ε → ExceptT ε Simulation α} (first : effect.Bounds program)
    (second : ∀ failure, effect.Bounds (handler failure)) :
    effect.Bounds (tryCatch program handler) := by
  intro world
  have before := first world
  rw [World.perform_tryCatch]
  generalize world.perform program = done at before ⊢
  obtain ⟨failure | result, after⟩ := done
  · exact effect.trans before (second failure after)
  · exact before

theorem forM {program : β → ExceptT ε Simulation Unit}
    (bounded : ∀ each, effect.Bounds (program each)) (list : List β) :
    effect.Bounds (list.forM program) := by
  induction list with
  | nil => exact .pure ()
  | cons each rest ih => exact (bounded each).bind fun _ => ih

theorem readText (path : Path) : effect.Bounds (Host.readText path : ExceptT _ Simulation _) := by
  intro world
  rw [World.perform_readText]
  exact effect.refl world

theorem log {level : Level} {origin : Origin} {text : String}
    (allowed : ∀ (world : World) records, effect.allows world { world with records }) :
    effect.Bounds (Host.log level origin text : ExceptT ε Simulation Unit) :=
  fun world => allowed world _

theorem change {operation : FileSystem → Location → Except FileFailure FileSystem}
    (allowed : ∀ (world : World) files, operation world.files world.directory = .ok files →
      effect.allows world { world with files }) :
    effect.Bounds (World.change operation) := by
  intro world
  rw [World.perform_change]
  cases changed : operation world.files world.directory with
  | error failure => exact effect.refl world
  | ok files => exact allowed world files changed

theorem opening {locate : FileSystem → Location → Except FileFailure Location}
    (allowed : ∀ (world : World) location, effect.allows world (world.opened location)) :
    effect.Bounds (World.opening locate) := by
  intro world
  rw [World.perform_opening]
  cases locate world.files world.directory with
  | error failure => exact effect.refl world
  | ok location => exact allowed world location

theorem fill {location : Location} {content : ByteArray}
    (allowed : ∀ (world : World) content,
      effect.allows world (world.written location content)) :
    effect.Bounds (World.fill location content) := by
  intro world
  rw [World.perform_fill]
  cases world.interruptions 0 with
  | none => exact allowed world content
  | some interruption => exact allowed world (interruption.part content)

end Bounds

end Effect

end VersionStamp
