import VersionStamp.Artifact.MetadataText
import VersionStamp.Artifact.Targets
import VersionStamp.Release.BuildNumber

/-! Settings: which files a run touches and how build numbers are made. -/

namespace VersionStamp

open VersionStamp.Artifact VersionStamp.Files VersionStamp.Release

structure BuildNumberSettings where
  scheme : Scheme := .zeroPadded
  /-- What the prefixed scheme puts before the suffix. -/
  lead : String := "5010000"
deriving Repr, DecidableEq

structure Settings where
  /-- Where relative names start; the current directory if there is none. -/
  baseDirectory : Option Path := none
  metadataFile : String := MetadataText.defaultName
  headerFile : String := "../SourceFiles/core/version.h"
  primaryResource : String := "../Resources/winrc/Telegram.rc"
  updaterResource : String := "../Resources/winrc/Updater.rc"
  buildNumber : BuildNumberSettings := {}
deriving Repr, DecidableEq

namespace Settings

/-- The configured names, joined to a base. -/
def locationsIn (settings : Settings) (base : Path) : Locations where
  metadata := base.join (.ofConfigured settings.metadataFile)
  header := base.join (.ofConfigured settings.headerFile)
  primaryResource := base.join (.ofConfigured settings.primaryResource)
  updaterResource := base.join (.ofConfigured settings.updaterResource)

end Settings

end VersionStamp
