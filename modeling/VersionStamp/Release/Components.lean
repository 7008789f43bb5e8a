import VersionStamp.Text.Blank

/-! The four numbers of a version, kept as the digits that were typed. -/

namespace VersionStamp.Release

open VersionStamp.Text

/-- What an operator is asked for. -/
inductive Part where
  | major
  | minor
  | patch
  | material
  | buildNumber
deriving Repr, DecidableEq

namespace Part

def label : Part → String
  | .major => "Major version"
  | .minor => "Minor version"
  | .patch => "Patch version"
  | .material => "Materialgram version"
  | .buildNumber => "Build number"

end Part

/-- Why no release can be formed. -/
inductive ReleaseFailure where
  | notANumber (part : Part) (text : String)
  | buildNumberTooLarge
deriving Repr, DecidableEq

def ReleaseFailure.message : ReleaseFailure → String
  | .notANumber part text => part.label ++ " '" ++ text ++ "' is not a number"
  | .buildNumberTooLarge => "Build number does not fit in 64 bits"

/-- One or more decimal digits. -/
def isNumeral (text : List Char) : Bool :=
  !text.isEmpty && text.all Char.isDigit

/-- The digits between blanks, unchanged; leading zeros and any length are kept. -/
def numeral (part : Part) (input : String) : Except ReleaseFailure String :=
  let text := trim input
  if isNumeral text.toList then .ok text else .error (.notANumber part text)

structure Components where
  major : String
  minor : String
  patch : String
  material : String
deriving Repr, DecidableEq

namespace Components

/-- Checks the parts in order; the first that is no numeral is the one reported. -/
def ofInputs (inputs : Components) : Except ReleaseFailure Components := do
  return {
    major := ← numeral .major inputs.major
    minor := ← numeral .minor inputs.minor
    patch := ← numeral .patch inputs.patch
    material := ← numeral .material inputs.material }

def toList (components : Components) : List String :=
  [components.major, components.minor, components.patch, components.material]

end Components

end VersionStamp.Release
