import VersionStamp.Release.Components

/-! Build numbers.

A build number is text made from the four components by one of three rules. Only
the arithmetic rule can fail, when a product does not fit in 64 bits.
-/

namespace VersionStamp.Release

/-- The name of a rule, as it is configured. -/
inductive Scheme where
  | zeroPadded
  | arithmetic
  | prefixed
deriving Repr, DecidableEq, Inhabited

namespace Scheme

def all : List Scheme := [.zeroPadded, .arithmetic, .prefixed]

def name : Scheme → String
  | .zeroPadded => "zero-padded"
  | .arithmetic => "arithmetic"
  | .prefixed => "prefixed"

def ofName? (text : String) : Option Scheme :=
  all.find? (·.name == text)

@[simp] theorem ofName?_name (scheme : Scheme) : ofName? scheme.name = some scheme := by
  cases scheme <;> decide +kernel

end Scheme

/-- A rule with all that it needs beside the components. -/
inductive Rule where
  | zeroPadded
  | arithmetic
  | prefixed (lead suffix : String)
deriving Repr, DecidableEq

/-- Fills up with zeros on the left; a longer text stays as it is. -/
def padded (width : Nat) (digits : String) : String :=
  String.ofList (digits.toList.leftpad width '0')

def decimal (n : Nat) : String := String.ofList (Nat.toDigits 10 n)

def wordLimit : Nat := UInt64.size

/-- Digits after at most one plus sign, as a number below the word limit. -/
def natural? (text : List Char) : Option Nat :=
  let digits :=
    match text with
    | '+' :: rest => rest
    | text => text
  if isNumeral digits then
    let value := Nat.ofDigitChars 10 digits 0
    if value < wordLimit then some value else none
  else none

def multiple (factor : Nat) (digits : String) : Except ReleaseFailure String :=
  match natural? digits.toList with
  | some n =>
      if n * factor < wordLimit then .ok (decimal (n * factor)) else .error .buildNumberTooLarge
  | none => .error .buildNumberTooLarge

namespace Rule

def buildNumber (rule : Rule) (components : Components) : Except ReleaseFailure String :=
  match rule with
  | .zeroPadded =>
      .ok (padded 3 components.major ++ padded 3 components.minor ++
        padded 2 components.patch ++ components.material)
  | .arithmetic => do
      let major ← multiple 100 components.major
      let minor ← multiple 10 components.minor
      return major ++ minor ++ components.patch ++ components.material
  | .prefixed lead suffix => .ok (lead ++ suffix)

end Rule

end VersionStamp.Release
