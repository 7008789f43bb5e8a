/-! Sets of characters.

A set is a list of ranges of indices, in ascending order and with a gap between
neighbours, so that a set has one form.
-/

namespace VersionStamp.Pattern

structure CharacterSet where
  ranges : List (Nat × Nat)
deriving Repr, DecidableEq

namespace CharacterSet

/-- Characters are counted without the code points in their midst that no character
has. -/
def index (c : Char) : Nat := if c.toNat < 0xD800 then c.toNat else c.toNat - 0x800

def lastIndex : Nat := 0x10F7FF

def empty : CharacterSet := ⟨[]⟩

def contains (set : CharacterSet) (c : Char) : Bool :=
  set.ranges.any fun (first, last) => first ≤ index c && index c ≤ last

/-- Adds a range, which swallows those that it meets. -/
def insertRange (first last : Nat) : List (Nat × Nat) → List (Nat × Nat)
  | [] => [(first, last)]
  | (low, high) :: rest =>
      if last + 1 < low then (first, last) :: (low, high) :: rest
      else if high + 1 < first then (low, high) :: insertRange first last rest
      else insertRange (min first low) (max last high) rest

/-- What lies between ranges, from an index on. -/
def gaps (start : Nat) : List (Nat × Nat) → List (Nat × Nat)
  | [] => if start ≤ lastIndex then [(start, lastIndex)] else []
  | (low, high) :: rest =>
      if start < low then (start, low - 1) :: gaps (high + 1) rest else gaps (high + 1) rest

def insert (set : CharacterSet) (first last : Char) : CharacterSet :=
  ⟨insertRange (index first) (index last) set.ranges⟩

def ofRanges (ranges : List (Char × Char)) : CharacterSet :=
  ranges.foldl (fun set (first, last) => set.insert first last) .empty

def singleton (c : Char) : CharacterSet := empty.insert c c

def union (set other : CharacterSet) : CharacterSet :=
  ⟨set.ranges.foldl (fun ranges (first, last) => insertRange first last ranges) other.ranges⟩

def complement (set : CharacterSet) : CharacterSet := ⟨gaps 0 set.ranges⟩

def intersection (set other : CharacterSet) : CharacterSet :=
  (set.complement.union other.complement).complement

def difference (set other : CharacterSet) : CharacterSet :=
  set.intersection other.complement

def symmetricDifference (set other : CharacterSet) : CharacterSet :=
  (set.union other).difference (set.intersection other)

/-- The parts of ranges within another range, moved up or down. -/
def shifted (low high : Nat) (move : Nat → Nat) (ranges : List (Nat × Nat)) :
    List (Nat × Nat) :=
  ranges.filterMap fun (first, last) =>
    if max first low ≤ min last high then some (move (max first low), move (min last high))
    else none

/-- The set with the other case of each of its ASCII letters. -/
def withBothCases (set : CharacterSet) : CharacterSet :=
  let lower := shifted 0x41 0x5A (· + 0x20) set.ranges
  let upper := shifted 0x61 0x7A (· - 0x20) set.ranges
  (set.union ⟨lower⟩).union ⟨upper⟩

def isAscii (set : CharacterSet) : Bool := set.ranges.all fun (_, last) => last < 0x80

end CharacterSet

end VersionStamp.Pattern
