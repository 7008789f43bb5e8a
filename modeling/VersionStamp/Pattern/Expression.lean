import VersionStamp.Pattern.Basic
import VersionStamp.Pattern.Failure

/-! The written form of patterns, with the places of its parts.

Parts side by side and alternatives form one node each, however many there are; what
they consist of is chained by `beside` and `otherwise`.
-/

namespace VersionStamp.Pattern

structure Literal where
  char : Char
  span : Span
  /-- Written as the number of a byte. -/
  isByte : Bool := false
deriving Repr, DecidableEq

/-- A class of characters that a backslash and a letter stand for. -/
structure Shorthand where
  ascii : CharacterSet
  negated : Bool
  span : Span

/-- A class of characters with a property, if it is asked for by one name. -/
structure Property where
  name : Option String
  span : Span

inductive SetOperation where
  | intersection
  | difference
  | symmetricDifference
deriving Repr, DecidableEq

/-- What stands in brackets. -/
inductive ClassExpression where
  | nothing (span : Span)
  | literal (literal : Literal)
  | range (first last : Literal)
  | named (set : CharacterSet) (negated : Bool) (span : Span)
  | shorthand (shorthand : Shorthand)
  | property (property : Property)
  | bracketed (content : ClassExpression) (negated : Bool) (span : Span)
  | union (content : ClassExpression) (span : Span)
  | beside (first second : ClassExpression)
  | combined (operation : SetOperation) (left right : ClassExpression) (span : Span)

inductive Flag where
  | ignoreCase
  | multiLine
  | dotMatchesLineFeed
  | swapGreed
  | unicode
  | carriageReturns
  | ignoreBlanks
deriving Repr, DecidableEq

/-- Flags that are set, and those that are unset. -/
abbrev FlagChange := List (Flag × Bool)

inductive Expression where
  | nothing (span : Span)
  | flags (change : FlagChange) (span : Span)
  | literal (literal : Literal)
  | dot (span : Span)
  | assertion (assertion : Assertion) (span : Span)
  | shorthand (shorthand : Shorthand)
  | property (property : Property)
  | bracketed (content : ClassExpression) (negated : Bool) (span : Span)
  | repeated (content : Expression) (low : Nat) (high : Option Nat) (span : Span)
  | group (content : Expression) (change : FlagChange) (span : Span)
  | sequence (content : Expression) (span : Span)
  | beside (first second : Expression)
  | choice (content : Expression) (span : Span)
  | otherwise (first second : Expression)

namespace ClassExpression

def span : ClassExpression → Span
  | .nothing span | .named _ _ span | .bracketed _ _ span => span
  | .union _ span | .combined _ _ _ span => span
  | .literal part => part.span
  | .range first last => ⟨first.span.start, last.span.stop⟩
  | .shorthand part => part.span
  | .property part => part.span
  | .beside first second => ⟨first.span.start, second.span.stop⟩

/-- The first part that is nested too deeply, below a number of others. -/
def tooDeep? (depth : Nat) : ClassExpression → Option Span
  | .nothing _ | .literal _ | .range _ _ | .named _ _ _ | .shorthand _ | .property _ => none
  | .bracketed content _ span | .union content span =>
      if nestingLimit ≤ depth then some span else content.tooDeep? (depth + 1)
  | .beside first second => first.tooDeep? depth <|> second.tooDeep? depth
  | .combined _ left right span =>
      if nestingLimit ≤ depth then some span
      else left.tooDeep? (depth + 1) <|> right.tooDeep? (depth + 1)

end ClassExpression

namespace Expression

def span : Expression → Span
  | .nothing span | .flags _ span | .dot span | .assertion _ span | .bracketed _ _ span => span
  | .repeated _ _ _ span | .group _ _ span | .sequence _ span | .choice _ span => span
  | .literal part => part.span
  | .shorthand part => part.span
  | .property part => part.span
  | .beside first second | .otherwise first second => ⟨first.span.start, second.span.stop⟩

/-- The first part that is nested too deeply, below a number of others. -/
def tooDeep? (depth : Nat) : Expression → Option Span
  | .nothing _ | .flags _ _ | .literal _ | .dot _ | .assertion _ _ => none
  | .shorthand _ | .property _ => none
  | .bracketed content _ span =>
      if nestingLimit ≤ depth then some span else content.tooDeep? (depth + 1)
  | .repeated content _ _ span | .group content _ span | .sequence content span
  | .choice content span =>
      if nestingLimit ≤ depth then some span else content.tooDeep? (depth + 1)
  | .beside first second | .otherwise first second =>
      first.tooDeep? depth <|> second.tooDeep? depth

end Expression

end VersionStamp.Pattern
