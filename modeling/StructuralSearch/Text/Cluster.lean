import StructuralSearch.Text.Basic
import StructuralSearch.Text.Cluster.Property

/-!
# Grapheme clusters

A text is cut into what is perceived as its characters: a letter with its marks, a pair of regional
indicators, a sequence of pictographs that are joined, a Korean syllable. A conjunct of an Indic
script is left in its parts.

`Text.clusters` gives the clusters of a text; together they are the text.
-/

namespace StructuralSearch

namespace Text

/-- What of a cluster in progress decides whether it goes on. -/
structure ClusterState where
  /-- The class of the last character. -/
  last : BreakClass
  /-- Whether the number of regional indicators at the end is odd. -/
  openIndicator : Bool
  /-- Whether the cluster ends in a pictograph and marks that extend it. -/
  pictograph : Bool
  /-- Whether the cluster ends in a pictograph, such marks and a joiner. -/
  joined : Bool
deriving DecidableEq, Repr

namespace ClusterState

/-- The state after a first character. -/
def start (c : BreakClass) : ClusterState :=
  ⟨c, c == .regionalIndicator, c == .pictograph, false⟩

/-- The state after one more character of the same cluster. -/
def extend (s : ClusterState) (c : BreakClass) : ClusterState :=
  ⟨c, c == .regionalIndicator && !s.openIndicator,
    c == .pictograph || (s.pictograph && c == .extend), s.pictograph && c == .joiner⟩

/-- Whether a character of class `c` goes on with the cluster. -/
def continues (s : ClusterState) (c : BreakClass) : Bool :=
  match s.last, c with
  | .carriageReturn, .lineFeed => true
  | .carriageReturn, _ | .lineFeed, _ | .control, _ => false
  | _, .carriageReturn | _, .lineFeed | _, .control => false
  | _, .extend | _, .joiner | _, .spacingMark => true
  | .prepend, _ => true
  | .leadingConsonant, .leadingConsonant | .leadingConsonant, .vowel
  | .leadingConsonant, .openSyllable | .leadingConsonant, .closedSyllable => true
  | .openSyllable, .vowel | .openSyllable, .trailingConsonant => true
  | .vowel, .vowel | .vowel, .trailingConsonant => true
  | .closedSyllable, .trailingConsonant | .trailingConsonant, .trailingConsonant => true
  | .regionalIndicator, .regionalIndicator => s.openIndicator
  | .joiner, .pictograph => s.joined
  | _, _ => false

end ClusterState

/-- The clusters of a text that goes on with a cluster in progress, given in reverse. -/
def clustersFrom (reversed : Text) (s : ClusterState) : Text → List Text
  | [] => [reversed.reverse]
  | c :: t =>
    let k := BreakClass.ofChar c
    if s.continues k then clustersFrom (c :: reversed) (s.extend k) t
    else reversed.reverse :: clustersFrom [c] (.start k) t

/-- The grapheme clusters of a text. -/
def clusters : Text → List Text
  | [] => []
  | c :: t => clustersFrom [c] (.start (BreakClass.ofChar c)) t

theorem flatten_clustersFrom (reversed : Text) (s : ClusterState) (t : Text) :
    (clustersFrom reversed s t).flatten = reversed.reverse ++ t := by
  induction t generalizing reversed s with
  | nil => simp [clustersFrom]
  | cons c t ih => simp only [clustersFrom]; split <;> simp [ih]

/-- Nothing of a text is lost. -/
@[simp] theorem flatten_clusters (t : Text) : (clusters t).flatten = t := by
  cases t with
  | nil => rfl
  | cons c t => simp [clusters, flatten_clustersFrom]

example : clusters "e\u0301-\r\n".toList = ["e\u0301".toList, ['-'], ['\r', '\n']] := by
  decide +kernel

end Text

end StructuralSearch
