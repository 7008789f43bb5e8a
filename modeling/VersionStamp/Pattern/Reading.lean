import VersionStamp.Pattern.Brackets
import VersionStamp.Pattern.Group

/-! From the text of a pattern to its written form. -/

namespace VersionStamp.Pattern

/-- What has been read of a group: the parts of the current alternative, the last one
first, and the alternatives before it, likewise. -/
structure Level where
  start : Position
  parts : List Expression := []
  choiceStart : Position
  alternatives : List Expression := []

namespace Level

def begin (position : Position) : Level := { start := position, choiceStart := position }

def add (level : Level) (part : Expression) : Level :=
  { level with parts := part :: level.parts }

/-- The current alternative, which ends at a position. -/
def sequence (level : Level) (stop : Position) : Expression :=
  match level.parts with
  | [] => .nothing ⟨level.start, stop⟩
  | [part] => part
  | last :: earlier =>
      .sequence (earlier.foldl (fun later part => .beside part later) last) ⟨level.start, stop⟩

/-- All that has been read, which ends at a position. -/
def expression (level : Level) (stop : Position) : Expression :=
  let last := level.sequence stop
  match level.alternatives with
  | [] => last
  | earlier =>
      .choice (earlier.foldl (fun later part => .otherwise part later) last)
        ⟨level.choiceStart, stop⟩

/-- The level after a bar, which ends an alternative. -/
def next (level : Level) (bar stop : Position) : Level :=
  { level with
    start := stop, parts := [], alternatives := level.sequence bar :: level.alternatives }

end Level

/-- A group that is still open, and what surrounds it. -/
structure Around where
  outer : Level
  change : FlagChange
  span : Span
  ignoresBlanks : Bool

/-- Counts must be less than this. -/
def countLimit : Nat := 4294967296

namespace Scan

/-- The part that a repetition applies to. -/
def repeatable (level : Level) : Scan (Expression × List Expression) := do
  match level.parts with
  | [] | .nothing _ :: _ | .flags _ _ :: _ => fail .repetitionMissing (.point (← here))
  | part :: earlier => return (part, earlier)

/-- A question mark after a repetition makes no difference to whether a text matches. -/
def bumpReluctance : Scan Unit := do
  let _ ← bumpIf ['?']

/-- Goes past blanks, which may stand around the digits of a count. -/
def countBlanks : Scan Unit := do
  let _ ← many (α := Unit) do
    if (← next?).any Text.isBlank then let _ ← advance; return some () else return none

/-- A count, whose absence need not be a failure. -/
def count : Scan (Except Failure Nat) := do
  countBlanks
  let start ← here
  let digits ← many do
    match ← next? with
    | some c => if c.isDigit then let _ ← advance; return some c else return none
    | none => return none
  let span ← spanFrom start
  countBlanks
  if digits.isEmpty then return .error { reason := .repetitionCountEmpty, span }
  let number := digits.foldl (fun number c => number * 10 + (c.toNat - '0'.toNat)) 0
  return if number < countLimit then .ok number else .error { reason := .decimalInvalid, span }

/-- The least and the greatest number of repetitions, up to the closing brace. -/
def counts (start : Position) : Scan (Nat × Option Nat) := do
  if !(← advance) then fail .repetitionCountUnclosed (← spanFrom start)
  let low ← count
  if ← isAtEnd then fail .repetitionCountUnclosed (← spanFrom start)
  let range ←
    if (← next?) = some ',' then
      if !(← advance) then fail .repetitionCountUnclosed (← spanFrom start)
      let low ← low
      if (← next?) = some '\x7d' then pure (low, none)
      else
        let high ← (← count)
        pure (low, some high)
    else
      let low ← low
      pure (low, some low)
  if (← next?) ≠ some '\x7d' then fail .repetitionCountUnclosed (← spanFrom start)
  return range

def counted (level : Level) : Scan Level := do
  let (part, earlier) ← repeatable level
  let start ← here
  let (low, high) ← counts start
  if ← advance then bumpReluctance
  if high.any (· < low) then fail .repetitionCountInvalid (← spanFrom start)
  let repetition := .repeated part low high (← spanFrom part.span.start)
  return { level with parts := repetition :: earlier }

def uncounted (low : Nat) (high : Option Nat) (level : Level) : Scan Level := do
  let (part, earlier) ← repeatable level
  bump
  bumpReluctance
  let repetition := .repeated part low high (← spanFrom part.span.start)
  return { level with parts := repetition :: earlier }

/-- A part that no other rule reads. -/
def primitive (c : Char) : Scan Expression := do
  if c = '\\' then escape
  else
    let span ← nextSpan
    bump
    match c with
    | '.' => return .dot span
    | '^' => return .assertion .lineStart span
    | '$' => return .assertion .lineEnd span
    | c => return .literal { char := c, span }

def setIgnoresBlanks (change : FlagChange) : Scan Unit := do
  match change.lookup .ignoreBlanks with
  | some ignoresBlanks => modify fun cursor => { cursor with ignoresBlanks }
  | none => pure ()

/-- Reads on in a group, with the groups around it, the innermost first. -/
def parts : Nat → Level → List Around → Scan Expression
  | 0, level, _ => return level.expression (← here)
  | fuel + 1, level, around => do
      bumpBlanks
      match ← next? with
      | none =>
          match around with
          | [] => return level.expression (← here)
          | group :: _ => fail .groupUnclosed group.span
      | some '(' =>
          let ignoresBlanks := (← get).ignoresBlanks
          match ← opening with
          | .flags change span =>
              setIgnoresBlanks change
              parts fuel (level.add (.flags change span)) around
          | .group change span =>
              setIgnoresBlanks change
              let group : Around := { outer := level, change, span, ignoresBlanks }
              parts fuel (.begin (← here)) (group :: around)
      | some ')' =>
          match around with
          | [] => fail .groupUnopened (← nextSpan)
          | group :: others =>
              let content := level.expression (← here)
              bump
              modify fun cursor => { cursor with ignoresBlanks := group.ignoresBlanks }
              let part := .group content group.change (← spanFrom group.span.start)
              parts fuel (group.outer.add part) others
      | some '|' =>
          let bar ← here
          bump
          parts fuel (level.next bar (← here)) around
      | some '[' => parts fuel (level.add (← bracketed)) around
      | some '?' => parts fuel (← uncounted 0 (some 1) level) around
      | some '*' => parts fuel (← uncounted 0 none level) around
      | some '+' => parts fuel (← uncounted 1 none level) around
      | some '\x7b' => parts fuel (← counted level) around
      | some c => parts fuel (level.add (← primitive c)) around

end Scan

/-- The written form of a pattern, unless it is nested too deeply. -/
def Expression.ofText (text : String) : Except Failure Expression := do
  let (expression, _) ←
    (Scan.parts (text.toList.length + 1) (.begin {}) []).run { rest := text.toList }
  match expression.tooDeep? 0 with
  | some span => throw { reason := .nestedTooDeeply, span }
  | none => return expression

end VersionStamp.Pattern
