import VersionStamp.Settings.File
import VersionStamp.Stamping.Run
import VersionStamp.Terminal

/-! The command: settings, then one run with answers from the input. -/

namespace VersionStamp

open VersionStamp.Artifact VersionStamp.Files

inductive CommandFailure where
  | settings (failure : SettingsFailure)
  | run (failure : RunFailure)
deriving Repr, DecidableEq

namespace CommandFailure

def chain : CommandFailure → List String
  | .settings failure => failure.chain
  | .run failure => failure.chain

def message (failure : CommandFailure) : String := ": ".intercalate failure.chain

end CommandFailure

namespace Command

variable {m : Type → Type} [Monad m] [Host m]

def perform : ExceptT CommandFailure m Report := do
  let settings ← Settings.find.adapt CommandFailure.settings
  let locations ← settings.locations.adapt CommandFailure.settings
  Host.log .info .command
    ("Build number scheme: " ++ settings.buildNumber.scheme.name ++
      ", metadata file: " ++ locations.metadata.display)
  (Stamping.run locations settings.buildNumber Terminal.answer).adapt CommandFailure.run

/-- Gives the exit status; a failure is logged with all its causes. -/
def run : m UInt32 := do
  match ← perform.run with
  | .ok _ => return 0
  | .error failure =>
      Host.record { level := .error, origin := .command, text := failure.message }
      return 1

end Command

end VersionStamp
