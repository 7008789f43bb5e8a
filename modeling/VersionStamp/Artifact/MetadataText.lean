import VersionStamp.Release.Basic

/-! The metadata file that packaging scripts read.

Readers find a value by its column, so every label is filled up with blanks to
the same width.
-/

namespace VersionStamp.Artifact.MetadataText

def defaultName : String := "version"

/-- The column at which all values start. -/
def valueColumn : Nat := 19

def fields (release : Release) : List (String × String) :=
  [ ("AppVersion", release.buildNumber),
    ("AppVersionStrMajor", release.seriesForm),
    ("AppVersionStrSmall", release.dottedForm),
    ("AppVersionStr", release.dottedForm),
    ("BetaChannel", "0"),
    ("AlphaVersion", "0"),
    ("AppVersionOriginal", release.dottedForm) ]

def line (label value : String) : List Char :=
  label.toList.rightpad valueColumn ' ' ++ value.toList ++ ['\n']

def ofRelease (release : Release) : String :=
  String.ofList ((fields release).flatMap fun (label, value) => line label value)

end VersionStamp.Artifact.MetadataText
