import Polyview.Text.ClusterClass

/-!
# Clusters

A text is cut into clusters, the units that a reader takes for single characters. What has been read
of the current cluster matters only through a small state.
-/

namespace Polyview.Text

/-- What is known of a cluster that is being read. -/
structure ClusterState where
  /-- The class of the last character. -/
  last : ClusterClass
  /-- A pictograph and only marks since, not counting the last character. -/
  pictured : Bool
  /-- A consonant and only joining marks since. -/
  stacked : Bool
  /-- Whether one of those marks joins consonants. -/
  linked : Bool
  /-- An odd number of flag halves in a row. -/
  halfFlag : Bool

def ClusterState.start (first : ClusterClass) : ClusterState where
  last := first
  pictured := false
  stacked := first == .consonant
  linked := false
  halfFlag := first == .regional

/-- Whether a character of class `next` belongs to the cluster read so far. -/
def ClusterState.joins (state : ClusterState) (next : ClusterClass) : Bool :=
  match state.last, next with
  | .carriageReturn, .lineFeed => true
  | .carriageReturn, _ | .lineFeed, _ | .control, _ => false
  | _, .carriageReturn | _, .lineFeed | _, .control => false
  | .leadingJamo, .leadingJamo | .leadingJamo, .vowelJamo => true
  | .leadingJamo, .openSyllable | .leadingJamo, .closedSyllable => true
  | .openSyllable, .vowelJamo | .openSyllable, .trailingJamo => true
  | .vowelJamo, .vowelJamo | .vowelJamo, .trailingJamo => true
  | .closedSyllable, .trailingJamo | .trailingJamo, .trailingJamo => true
  | _, .extending | _, .linking | _, .joiner | _, .nonJoiner | _, .spacing => true
  | .leading, _ => true
  | .joiner, .pictograph => state.pictured
  | .regional, .regional => state.halfFlag
  | _, .consonant => state.stacked && state.linked
  | _, _ => false

/-- The state after one more character of the same cluster. -/
def ClusterState.next (state : ClusterState) (kind : ClusterClass) : ClusterState where
  last := kind
  pictured :=
    state.last == .pictograph ||
      (state.pictured &&
        (state.last == .extending || state.last == .linking || state.last == .nonJoiner))
  stacked :=
    kind == .consonant ||
      (state.stacked && (kind == .extending || kind == .linking || kind == .joiner))
  linked := kind != .consonant && (state.linked || kind == .linking)
  halfFlag := kind == .regional && !state.halfFlag

/-- The clusters of a text, where the first one has begun with `begun`, given backwards. -/
def clustersFrom (state : ClusterState) (begun : List Char) : List Char → List (List Char)
  | [] => [begun.reverse]
  | c :: rest =>
      if state.joins (.of c) then
        clustersFrom (state.next (.of c)) (c :: begun) rest
      else
        begun.reverse :: clustersFrom (.start (.of c)) [c] rest

/-- The clusters of a text, in order. -/
def clusters : List Char → List (List Char)
  | [] => []
  | c :: rest => clustersFrom (.start (.of c)) [c] rest

end Polyview.Text
