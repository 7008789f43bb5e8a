import VersionStamp.Pattern.CharacterSet

/-! Patterns and the texts in which they occur.

A pattern leads from places of a text to places of the text. All places that it can
reach are followed at once, so no choice has to be taken back.
-/

namespace VersionStamp

namespace Pattern

/-- What is asked of the characters on both sides of a place. -/
inductive Assertion where
  | textStart
  | textEnd
  | lineStart
  | lineEnd
  /-- Lines that end in a carriage return, a line feed, or both in this order. -/
  | returnedLineStart
  | returnedLineEnd
  | wordBoundary
  | noWordBoundary
  | wordStart
  | wordEnd
  | wordStartHalf
  | wordEndHalf
deriving Repr, DecidableEq

def isWordCharacter (c : Char) : Bool := c.isAlphanum || c = '_'

namespace Assertion

def speaksOfWords : Assertion → Bool
  | .wordBoundary | .noWordBoundary | .wordStart | .wordEnd => true
  | .wordStartHalf | .wordEndHalf => true
  | _ => false

/-- Whether an assertion holds between two characters; there is none before and after
the text. -/
def holds (assertion : Assertion) (before after : Option Char) : Bool :=
  match assertion with
  | .textStart => before.isNone
  | .textEnd => after.isNone
  | .lineStart => before.all (· = '\n')
  | .lineEnd => after.all (· = '\n')
  | .returnedLineStart => before.all fun c => c = '\n' || (c = '\r' && after ≠ some '\n')
  | .returnedLineEnd => after.all fun c => c = '\r' || (c = '\n' && before ≠ some '\r')
  | .wordBoundary => before.any isWordCharacter != after.any isWordCharacter
  | .noWordBoundary => before.any isWordCharacter == after.any isWordCharacter
  | .wordStart => !before.any isWordCharacter && after.any isWordCharacter
  | .wordEnd => before.any isWordCharacter && !after.any isWordCharacter
  | .wordStartHalf => !before.any isWordCharacter
  | .wordEndHalf => !after.any isWordCharacter

end Assertion

end Pattern

inductive Pattern where
  | empty
  | one (set : Pattern.CharacterSet)
  /-- Words are of ASCII characters, or else of all letters and digits. -/
  | look (assertion : Pattern.Assertion) (ascii : Bool)
  | both (first second : Pattern)
  | either (first second : Pattern)
  | repeated (pattern : Pattern) (low : Nat) (high : Option Nat)

namespace Pattern

/-- The places of a text, each given by the characters around it. -/
def placesFrom (before : Option Char) : List Char → List (Option Char × Option Char)
  | [] => [(before, none)]
  | c :: rest => (before, some c) :: placesFrom (some c) rest

/-- Whether each place of a text can be reached. -/
abbrev Reached := List Bool

/-- Steps until nothing changes, at most as often as asked. -/
def iterate (step : Reached → Reached) : Nat → Reached → Reached
  | 0, reached => reached
  | count + 1, reached =>
      let next := step reached
      if next = reached then reached else iterate step count next

def join (reached other : Reached) : Reached := reached.zipWith (· || ·) other

def follow (text : List Char) : Pattern → Reached → Reached
  | .empty, reached => reached
  | .one set, reached => false :: reached.zipWith (fun here c => here && set.contains c) text
  | .look assertion _, reached =>
      reached.zipWith (fun here (before, after) => here && assertion.holds before after)
        (placesFrom none text)
  | .both first second, reached => second.follow text (first.follow text reached)
  | .either first second, reached =>
      join (first.follow text reached) (second.follow text reached)
  | .repeated pattern low high, reached =>
      let further := match high with
        | none => text.length + 1
        | some high => high - low
      iterate (fun reached => join reached (pattern.follow text reached)) further
        (iterate (pattern.follow text) low reached)

/-- Whether a pattern matches some part of a text. -/
def occursIn (pattern : Pattern) (text : String) : Bool :=
  (pattern.follow text.toList (List.replicate (text.toList.length + 1) true)).any id

/-- Whether a pattern takes no character. -/
def isIdle : Pattern → Bool
  | .empty | .look _ _ => true
  | .one _ => false
  | .both first second | .either first second => first.isIdle && second.isIdle
  | .repeated pattern _ _ => pattern.isIdle

/-- A repetition in its simplest form. Repeating what takes no character adds nothing. -/
def repetition (pattern : Pattern) (low : Nat) (high : Option Nat) : Pattern :=
  let low := if pattern.isIdle then min low 1 else low
  let high := if pattern.isIdle then some (min (high.getD 1) 1) else high
  if low = 0 ∧ high = some 0 then .empty
  else if low = 1 ∧ high = some 1 then pattern
  else .repeated pattern low high

/-- Which words a pattern speaks of can be told by ASCII characters alone. -/
def isPlain : Pattern → Bool
  | .empty | .one _ => true
  | .look assertion ascii => ascii || !assertion.speaksOfWords
  | .both first second | .either first second => first.isPlain && second.isPlain
  | .repeated pattern _ _ => pattern.isPlain

def CharacterSet.isSingle (set : CharacterSet) : Bool :=
  match set.ranges with
  | [(first, last)] => first = last
  | _ => false

/-- An estimate of the bytes that a set takes. -/
def CharacterSet.weight (set : CharacterSet) : Nat :=
  if set.isSingle then if set.isAscii then 32 else 96
  else if set.isAscii then 64 + 8 * set.ranges.length
  else 424

/-- An estimate of the bytes that a pattern takes. -/
def weight : Pattern → Nat
  | .empty | .look _ _ => 32
  | .one set => set.weight
  | .both first second => first.weight + second.weight
  | .either first second => first.weight + second.weight + 72
  | .repeated pattern low none => pattern.weight * max low 1 + 40
  | .repeated pattern low (some high) => pattern.weight * high + 40 * (high - low)

/-- The largest weight that a pattern may have. -/
def weightLimit : Nat := 10485760

end Pattern

end VersionStamp
