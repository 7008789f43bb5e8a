import VersionStamp.Artifact.MetadataText
import VersionStamp.Artifact.Targets
import VersionStamp.Host
import VersionStamp.Stamping.Failure
import VersionStamp.Text.Quoted

/-! A whole run: the dialogue, the metadata file and all targets. -/

namespace VersionStamp

open VersionStamp.Artifact VersionStamp.Files VersionStamp.Release

/-- What a successful run did. -/
structure Report where
  metadata : Path
  /-- Each target with the number of lines replaced for it. -/
  targets : List (Target × Nat)
deriving Repr, DecidableEq

/-- The targets whose tag stood in no line. -/
def Report.missed (report : Report) : List Target :=
  (report.targets.filter (·.2 == 0)).map (·.1)

namespace Stamping

variable {m : Type → Type} [Monad m] [Host m]

/-- Writes the metadata of a release into a new file. Whatever is already at the path
stays there, and the creation fails. -/
def createMetadata (path : Path) (release : Release) : ExceptT StampFailure m Unit := do
  let file ← Host.attempt (Host.createFile path) fun
    | .alreadyExists => .metadataExists path
    | cause => .metadata path cause
  Host.attempt (Host.writeAll file (MetadataText.ofRelease release)) (.metadata path)
  Host.log .info .metadata ("Wrote metadata file " ++ path.display)

/-- Removes the metadata file of an earlier run, and tells whether there was one. -/
def discardMetadata (path : Path) : ExceptT StampFailure m Bool := do
  match ← Host.outcome (Host.removeFile path) with
  | .ok () =>
      Host.log .info .metadata ("Removed stale metadata file " ++ path.display)
      return true
  | .error .notFound => return false
  | .error cause => throw (.metadata path cause)

/-- Reads a whole file, stamps the line into it and writes it back, also when no line
was replaced. Gives the number of replaced lines. -/
def stampTarget (target : Target) : ExceptT StampFailure m Nat := do
  let content ← Host.attempt (Host.readText target.path) (.readTarget target.path)
  let stamped := target.line.stampText content
  Host.attempt (Host.writeFile target.path stamped.content) (.writeTarget target.path)
  Host.log .debug .lines
    ("Patched " ++ toString stamped.replaced ++ " line(s) tagged " ++
      Text.quoted target.line.tag ++ " in " ++ target.path.display)
  return stamped.replaced

/-- Stamps targets one after another up to the first failure. -/
def stampTargets : List Target → ExceptT StampFailure m (List Nat)
  | [] => return []
  | target :: others => do
      let replaced ← stampTarget target
      return replaced :: (← stampTargets others)

/-- Makes room for a new metadata file. -/
def makeRoom (locations : Locations) : ExceptT StampFailure m Unit := do
  let _ ← discardMetadata locations.metadata
  return ()

def warnMissed (target : Target) : ExceptT StampFailure m Unit :=
  Host.log .warn .stamping
    ("No line tagged " ++ Text.quoted target.line.tag ++ " found in " ++ target.path.display)

/-- Creates the metadata file and then stamps all targets, up to the first failure. -/
def stampRelease (locations : Locations) (release : Release) : ExceptT StampFailure m Report := do
  Host.log .info .stamping
    ("Stamping version " ++ release.dottedForm ++ " (build " ++ release.buildNumber ++ ")")
  createMetadata locations.metadata release
  let targets := targets locations.ofFile release
  let counts ← stampTargets targets
  let report : Report := { metadata := locations.metadata, targets := targets.zip counts }
  report.missed.forM warnMissed
  Host.log .info .stamping
    ("Patched " ++ toString report.targets.length ++ " target(s)")
  return report

/-- Shows a release to the operator. -/
def announce {ε : Type} (release : Release) : ExceptT ε m Unit := do
  Host.say (release.dottedForm ++ "\n")
  Host.say ("Build number: " ++ release.buildNumber ++ "\n")

/-- Asks for a release and stamps it. No file is touched before all answers are
accepted. -/
def run (locations : Locations) (settings : BuildNumberSettings)
    (answer : Part → ExceptT PromptFailure m String) : ExceptT RunFailure m Report := do
  let release ← (Dialogue.hold answer (Dialogue.release settings)).adapt RunFailure.dialogue
  announce release
  (makeRoom locations).adapt RunFailure.stamp
  (stampRelease locations release).adapt RunFailure.stamp

end Stamping

end VersionStamp
