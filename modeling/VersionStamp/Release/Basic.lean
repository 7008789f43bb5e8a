import VersionStamp.Release.BuildNumber

/-! A release: four components together with their build number, and the forms
in which the artifacts show it. -/

namespace VersionStamp

open VersionStamp.Release

structure Release where
  components : Components
  buildNumber : String
deriving Repr, DecidableEq

namespace Release

def derive (components : Components) (rule : Rule) : Except ReleaseFailure Release := do
  return { components, buildNumber := ← rule.buildNumber components }

def separated (separator : String) (release : Release) : String :=
  separator.intercalate release.components.toList

def dottedForm (release : Release) : String := release.separated "."

def commaForm (release : Release) : String := release.separated ","

def seriesForm (release : Release) : String :=
  release.components.major ++ "." ++ release.components.minor

end Release

end VersionStamp
