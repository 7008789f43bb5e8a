import VersionStamp.Text.Cluster.Kind

/-! Clusters, the characters of a text as a reader counts them.

The clusters of a text concatenate to the text. Whether a character begins one depends
on what stands before it in the same cluster.
-/

namespace VersionStamp.Text

/-- How far a conjunct of consonants has come. -/
inductive Conjunct where
  | none
  | begun
  | linked
deriving Repr, DecidableEq

/-- What matters of the characters before a place. -/
structure Edge where
  last : Kind
  /-- They end in a pictograph with extenders, and perhaps a joiner last. -/
  pictograph : Bool
  conjunct : Conjunct
  /-- They end in an odd number of regional indicators. -/
  unpaired : Bool

namespace Kind

/-- Nothing but a line feed after a carriage return attaches to these. -/
def isBoundary : Kind → Bool
  | .carriageReturn | .lineFeed | .control => true
  | _ => false

def attaches : Kind → Bool
  | .extender | .joiner | .spacingMark => true
  | _ => false

/-- Whether two parts of Korean syllables make one syllable. -/
def joinsSyllable : Kind → Kind → Bool
  | .initial, next =>
      next = .initial || next = .vowel || next = .openSyllable || next = .closedSyllable
  | .openSyllable, next | .vowel, next => next = .vowel || next = .final
  | .closedSyllable, next | .final, next => next = .final
  | _, _ => false

end Kind

namespace Edge

/-- The edge before a text. Nothing attaches to it. -/
def start : Edge := { last := .control, pictograph := false, conjunct := .none, unpaired := false }

def conjunctAfter (edge : Edge) (c : Char) (kind : Kind) : Conjunct :=
  if kind = .consonant then .begun
  else if Kind.isLinker c then if edge.conjunct = .none then .none else .linked
  else if (kind = .extender || kind = .joiner) && c ≠ '\u200c' then edge.conjunct
  else .none

def after (edge : Edge) (c : Char) : Edge :=
  let kind := Kind.ofChar c
  { last := kind
    pictograph := kind = .pictograph ||
      (edge.pictograph && edge.last ≠ .joiner && (kind = .extender || kind = .joiner))
    conjunct := edge.conjunctAfter c kind
    unpaired := kind = .regional && !edge.unpaired }

/-- Whether a character belongs to the cluster that the edge is in. -/
def joins (edge : Edge) (c : Char) : Bool :=
  let kind := Kind.ofChar c
  if edge.last.isBoundary || kind.isBoundary then
    edge.last = .carriageReturn && kind = .lineFeed
  else
    kind.attaches || edge.last = .leading || edge.last.joinsSyllable kind ||
    (kind = .consonant && edge.conjunct = .linked) ||
    (kind = .pictograph && edge.last = .joiner && edge.pictograph) ||
    (kind = .regional && edge.unpaired)

end Edge

/-- What belongs to the cluster before an edge, and the clusters after it. -/
def clustersFrom : Edge → List Char → List Char × List (List Char)
  | _, [] => ([], [])
  | edge, c :: rest =>
      let (cluster, others) := clustersFrom (edge.after c) rest
      if edge.joins c then (c :: cluster, others) else ([], (c :: cluster) :: others)

theorem flatten_clustersFrom (edge : Edge) (text : List Char) :
    (clustersFrom edge text).1 ++ (clustersFrom edge text).2.flatten = text := by
  induction text generalizing edge with
  | nil => rfl
  | cons c rest ih =>
      have tail := ih (edge.after c)
      simp only [clustersFrom]
      split <;> simp [tail]

def clusters (text : List Char) : List (List Char) := (clustersFrom .start text).2

@[simp] theorem flatten_clusters (text : List Char) : (clusters text).flatten = text := by
  cases text with
  | nil => rfl
  | cons c rest =>
      have whole := flatten_clustersFrom .start (c :: rest)
      have alone : (clustersFrom .start (c :: rest)).1 = [] := by
        simp only [clustersFrom]
        split
        · rename_i joined
          simp [Edge.joins, Edge.start, Kind.isBoundary] at joined
        · rfl
      simpa [alone, clusters] using whole

end VersionStamp.Text
