import VersionStamp.Artifact.TaggedLine
import VersionStamp.Files.Path
import VersionStamp.Release.Basic

/-! The ten tagged lines of a release and the files they belong to. -/

namespace VersionStamp.Artifact

open VersionStamp.Files

/-- The files that carry tagged lines. -/
inductive SourceFile where
  | header
  | primaryResource
  | updaterResource
deriving Repr, DecidableEq

/-- Where a run finds its files. -/
structure Locations where
  metadata : Path
  header : Path
  primaryResource : Path
  updaterResource : Path
deriving Repr, DecidableEq

def Locations.ofFile (locations : Locations) : SourceFile → Path
  | .header => locations.header
  | .primaryResource => locations.primaryResource
  | .updaterResource => locations.updaterResource

/-- How the value after a tag shows the release. -/
inductive Form where
  | quotedStatement
  | numberStatement
  | resourceNumber
  | resourceString
deriving Repr, DecidableEq

def Form.render (release : Release) : Form → String
  | .quotedStatement => release.dottedForm ++ "\";"
  | .numberStatement => release.buildNumber ++ ";"
  | .resourceNumber => release.commaForm
  | .resourceString => release.dottedForm ++ "\""

def fileVersionTag : String := "            VALUE \"FileVersion\", \""

def productVersionTag : String := "            VALUE \"ProductVersion\", \""

/-- Every tag with its file and form, in the order of stamping. -/
def table : List (SourceFile × String × Form) :=
  [ (.header, "constexpr auto AppVersionStr = \"", .quotedStatement),
    (.header, "constexpr auto AppVersion = ", .numberStatement),
    (.primaryResource, " FILEVERSION ", .resourceNumber),
    (.primaryResource, " PRODUCTVERSION ", .resourceNumber),
    (.updaterResource, " FILEVERSION ", .resourceNumber),
    (.updaterResource, " PRODUCTVERSION ", .resourceNumber),
    (.primaryResource, fileVersionTag, .resourceString),
    (.updaterResource, fileVersionTag, .resourceString),
    (.primaryResource, productVersionTag, .resourceString),
    (.updaterResource, productVersionTag, .resourceString) ]

/-- A tagged line and the path of the file it belongs to. -/
structure Target where
  path : Path
  line : TaggedLine
deriving Repr, DecidableEq

def targets (locate : SourceFile → Path) (release : Release) : List Target :=
  table.map fun (file, tag, form) =>
    { path := locate file, line := { tag, value := form.render release } }

theorem length_targets (locate : SourceFile → Path) (release : Release) :
    (targets locate release).length = 10 := by
  simp [targets, table]

end VersionStamp.Artifact
