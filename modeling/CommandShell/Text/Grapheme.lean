import CommandShell.Text.GraphemeClass

/-!
# Grapheme clusters

A text is cut into user-perceived characters by the rules of the Unicode standard for extended
grapheme clusters. What the rules ask about the characters before a place is carried along, so one
pass from left to right does it. Main statement: cutting loses nothing (`flatten_clusters`).
-/

namespace CommandShell

namespace Text

/-- What is to be known of the cluster before a place. -/
structure ClusterState where
  last : GraphemeClass
  /-- The number of regional indicators at its end is odd. -/
  oddIndicators : Bool
  /-- It ends in a pictograph and marks behind it. -/
  pictograph : Bool
  /-- It ends in a pictograph, marks and a joiner. -/
  joinedPictograph : Bool
  /-- It ends in a consonant and signs that may stand between joined consonants. -/
  consonant : Bool
  /-- Among these signs is one that joins. -/
  linked : Bool
  deriving DecidableEq, Repr

/-- The one extending character that does not stand between joined consonants. -/
def nonJoiner : Char := '\u200C'

namespace ClusterState

def start (c : Char) : ClusterState where
  last := graphemeClass c
  oddIndicators := graphemeClass c = .regionalIndicator
  pictograph := graphemeClass c = .pictograph
  joinedPictograph := false
  consonant := conjunctConsonantRanges.contains c
  linked := false

/-- The state behind one more character of the same cluster. -/
def step (s : ClusterState) (c : Char) : ClusterState :=
  let k := graphemeClass c
  let between := (k = .extend || k = .joiner) && c != nonJoiner
  { last := k
    oddIndicators := k = .regionalIndicator && !s.oddIndicators
    pictograph := k = .pictograph || (k = .extend && s.pictograph)
    joinedPictograph := k = .joiner && s.pictograph
    consonant := conjunctConsonantRanges.contains c || (s.consonant && between)
    linked := s.consonant && between && (s.linked || conjunctLinkerRanges.contains c) }

/-- A line break or another control stands alone. -/
def isControl : GraphemeClass → Bool
  | .carriageReturn => true
  | .lineFeed => true
  | .control => true
  | _ => false

/-- The parts of a Hangul syllable stay together. -/
def joinsSyllable : GraphemeClass → GraphemeClass → Bool
  | .leadingJamo, k =>
    k = .leadingJamo || k = .vowelJamo || k = .openSyllable || k = .closedSyllable
  | .openSyllable, k => k = .vowelJamo || k = .trailingJamo
  | .vowelJamo, k => k = .vowelJamo || k = .trailingJamo
  | .closedSyllable, k => k = .trailingJamo
  | .trailingJamo, k => k = .trailingJamo
  | _, _ => false

/-- The character belongs to the cluster before it. -/
def continuesWith (s : ClusterState) (c : Char) : Bool :=
  let k := graphemeClass c
  if s.last = .carriageReturn ∧ k = .lineFeed then true
  else if isControl s.last || isControl k then false
  else
    joinsSyllable s.last k || k = .extend || k = .joiner || k = .spacingMark ||
      s.last = .prepended || (s.linked && conjunctConsonantRanges.contains c) ||
      (s.joinedPictograph && k = .pictograph) || (s.oddIndicators && k = .regionalIndicator)

end ClusterState

/-- The clusters of a text, of which the first goes on from one whose characters are given in
reverse. -/
def clustersFrom (s : ClusterState) (cluster : Text) : Text → List Text
  | [] => [cluster.reverse]
  | c :: t =>
    if s.continuesWith c then clustersFrom (s.step c) (c :: cluster) t
    else cluster.reverse :: clustersFrom (.start c) [c] t

def clusters : Text → List Text
  | [] => []
  | c :: t => clustersFrom (.start c) [c] t

theorem flatten_clustersFrom (s : ClusterState) (cluster t : Text) :
    (clustersFrom s cluster t).flatten = cluster.reverse ++ t := by
  induction t generalizing s cluster with
  | nil => simp [clustersFrom]
  | cons c t ih =>
    unfold clustersFrom
    split <;> simp [ih]

theorem flatten_clusters (t : Text) : (clusters t).flatten = t := by
  cases t with
  | nil => rfl
  | cons c t => simp [clusters, flatten_clustersFrom]

end Text

end CommandShell
