import VersionStamp.Host
import VersionStamp.Settings.Document

/-! Loading and saving settings. -/

namespace VersionStamp

open VersionStamp.Artifact VersionStamp.Files

inductive SettingsFailure where
  | unreadable (path : Path) (cause : FileFailure)
  | malformed (path : Path)
  | noDirectory (cause : FileFailure)
  | notText
  | unwritable (cause : FileFailure)
  | noHome
  | noCurrentDirectory (cause : FileFailure)
deriving Repr, DecidableEq

namespace SettingsFailure

/-- The texts from the outermost to the cause. What is wrong with a malformed file is
not told. -/
def chain : SettingsFailure → List String
  | .unreadable path cause => ["Failed to read config file " ++ path.display, cause.message]
  | .malformed path => ["Failed to parse config file " ++ path.display]
  | .noDirectory cause => [cause.message]
  | .notText => ["path contains invalid UTF-8 characters"]
  | .unwritable cause => ["Failed to write config file", cause.message]
  | .noHome => ["Failed to determine config directory"]
  | .noCurrentDirectory cause => ["Failed to determine current directory", cause.message]

end SettingsFailure

namespace Settings

variable {m : Type → Type} [Monad m] [Host m]

def load (path : Path) : ExceptT SettingsFailure m Settings := do
  let text ← Host.attempt (Host.readText path) (.unreadable path)
  match ofDocument? text with
  | some settings => return settings
  | none => throw (.malformed path)

/-- Settings are only looked for where a file is; otherwise the defaults hold. -/
def loadIfPresent (path : Path) : ExceptT SettingsFailure m Settings := do
  if ← ExceptT.lift (Host.isPresent path) then load path
  else
    Host.log .info .settings ("No config at " ++ path.display ++ ", using defaults")
    return {}

/-- The variable that names a settings file, which then must exist. -/
def fileVariable : String := "SET_VERSION_CONFIG"

/-- The home directory: the one that the environment names, or else the one on record. -/
def home : ExceptT SettingsFailure m Path := do
  let named ← ExceptT.lift (Host.environment (m := m) "HOME")
  let account ← ExceptT.lift (Host.accountHome (m := m))
  match (named.filter (!·.bytes.isEmpty)).or account with
  | some home => return home
  | none => throw .noHome

/-- The directory for the settings of a user: the one that the environment names, if
that is an absolute path, or else one within the home directory. There must be a home
directory in either case. -/
def userDirectory : ExceptT SettingsFailure m Path := do
  let home ← home
  let named ← ExceptT.lift (Host.environment (m := m) "XDG_CONFIG_HOME")
  return (named.filter Path.isAbsolute).getD (home.join (.ofString ".config"))

def userFile : ExceptT SettingsFailure m Path := do
  let directory ← userDirectory
  return (directory.join (.ofString "set_version")).join (.ofString "config.toml")

/-- The settings that are in force for a run. -/
def find : ExceptT SettingsFailure m Settings := do
  match ← ExceptT.lift (Host.environment (m := m) fileVariable) with
  | some path =>
      Host.log .debug .settings
        ("Using config from " ++ fileVariable ++ "=" ++ path.display)
      load path
  | none => loadIfPresent (← userFile)

/-- Writes settings to a file, after making the directories above it. Nothing is
written of settings that cannot be written as a whole. -/
def save (settings : Settings) (path : Path) : ExceptT SettingsFailure m Unit := do
  unless path.ancestors.isEmpty do
    Host.attempt (Host.createDirectories path.ancestors) .noDirectory
  match settings.toDocument? with
  | some text => Host.attempt (Host.writeFile path text) .unwritable
  | none => throw .notText

/-- The files of a run, found from the base directory or the current one. -/
def locations (settings : Settings) : ExceptT SettingsFailure m Locations := do
  match settings.baseDirectory with
  | some base => return settings.locationsIn base
  | none =>
      let here ← Host.attempt Host.currentDirectory .noCurrentDirectory
      return settings.locationsIn here

end Settings

end VersionStamp
