import Polyview.Proofs.Text.Cluster
import Polyview.Proofs.Text.LetterCase
import Polyview.Text.WordCase

/-!
# Spaces between words

Cutting a text into words drops the spaces that are clusters of their own. A space that a mark
follows, or that comes after a sign that joins what follows it, is part of a larger cluster and
stays in its word.
-/

namespace Polyview.Text

/-! ## Clusters -/

/-- Characters of these classes join whatever character stands before them. -/
def ClusterClass.isMark : ClusterClass → Bool
  | .extending | .linking | .joiner | .nonJoiner | .spacing => true
  | _ => false

/-- What is known of a cluster fits the last character that has been read. -/
structure ClusterState.Follows (state : ClusterState) (c : Char) : Prop where
  last : state.last = .of c
  notStacked : c = ' ' → state.stacked = false

theorem of_space : ClusterClass.of ' ' = .other := by decide +kernel

theorem ClusterState.follows_start (c : Char) : (ClusterState.start (.of c)).Follows c where
  last := rfl
  notStacked isSpace := by
    subst isSpace
    rw [start, of_space]
    rfl

theorem ClusterState.follows_next (state : ClusterState) (c : Char) :
    (state.next (.of c)).Follows c where
  last := rfl
  notStacked isSpace := by
    subst isSpace
    rw [next, of_space]
    simp

theorem ClusterState.Follows.joins_after_space {state : ClusterState}
    (follows : state.Follows ' ') (kind : ClusterClass) : state.joins kind = kind.isMark := by
  have last : state.last = .other := follows.last.trans of_space
  have notStacked := follows.notStacked rfl
  cases kind <;> simp [joins, last, notStacked, ClusterClass.isMark]

theorem ClusterState.joins_space (state : ClusterState) :
    state.joins (.of ' ') = (state.last == .leading) := by
  rw [of_space]
  unfold joins
  cases state.last <;> rfl

/-- A space does not belong to the cluster of its neighbour. -/
def KeepsSpaceApart (c d : Char) : Prop :=
  (c = ' ' → (ClusterClass.of d).isMark = false) ∧ (d = ' ' → ClusterClass.of c ≠ .leading)

instance (c d : Char) : Decidable (KeepsSpaceApart c d) := inferInstanceAs (Decidable (_ ∧ _))

/-- A space is all there is of its cluster. -/
def SpaceIsAlone (cluster : List Char) : Prop := ' ' ∈ cluster → cluster = [' ']

theorem spaceIsAlone_singleton (c : Char) : SpaceIsAlone [c] := by
  intro member
  rw [List.mem_singleton] at member
  rw [← member]

theorem spaceIsAlone_reverse (cluster : List Char) :
    SpaceIsAlone cluster.reverse ↔ SpaceIsAlone cluster := by
  unfold SpaceIsAlone
  rw [List.mem_reverse, List.reverse_eq_iff, List.reverse_singleton]

/-- A character that joins the cluster does no harm exactly if no space is involved. -/
theorem spaceIsAlone_joined {state : ClusterState} {c d : Char} {begun : List Char}
    (follows : state.Follows c) (joined : state.joins (.of d)) :
    SpaceIsAlone (d :: c :: begun) ↔ SpaceIsAlone (c :: begun) ∧ KeepsSpaceApart c d := by
  constructor
  · intro alone
    have noSpace : ' ' ∉ d :: c :: begun := fun member => by simpa using alone member
    simp only [List.mem_cons, not_or] at noSpace
    obtain ⟨notNext, notLast, notBegun⟩ := noSpace
    refine ⟨fun member => ?_, fun isSpace => absurd isSpace.symm notLast,
      fun isSpace => absurd isSpace.symm notNext⟩
    rcases List.mem_cons.mp member with isLast | isBegun
    · exact absurd isLast notLast
    · exact absurd isBegun notBegun
  · rintro ⟨alone, apartAfter, apartBefore⟩ member
    exfalso
    rcases List.mem_cons.mp member with isNext | isBegun
    · -- only a leading sign joins the space behind it
      rw [← isNext, ClusterState.joins_space, follows.last] at joined
      exact apartBefore isNext.symm (eq_of_beq joined)
    · -- only a mark joins the space before it
      obtain ⟨rfl, -⟩ := List.cons_eq_cons.mp (alone isBegun)
      rw [follows.joins_after_space, apartAfter rfl] at joined
      cases joined

theorem keepsSpaceApart_of_not_joins {state : ClusterState} {c d : Char}
    (follows : state.Follows c) (notJoined : ¬ state.joins (.of d)) : KeepsSpaceApart c d := by
  constructor
  · rintro rfl
    rwa [follows.joins_after_space, Bool.not_eq_true] at notJoined
  · rintro rfl isLeading
    rw [ClusterState.joins_space, follows.last, isLeading] at notJoined
    exact notJoined rfl

theorem clustersFrom_spaceIsAlone {state : ClusterState} {c : Char} (follows : state.Follows c)
    (begun text : List Char) :
    (∀ cluster ∈ clustersFrom state (c :: begun) text, SpaceIsAlone cluster) ↔
      SpaceIsAlone (c :: begun) ∧ List.IsChain KeepsSpaceApart (c :: text) := by
  -- The cluster that is being read is kept backwards, with the character read last in front.
  induction text generalizing state c begun with
  | nil => simp [clustersFrom, ← spaceIsAlone_reverse (c :: begun)]
  | cons d text ih =>
      rw [clustersFrom, List.isChain_cons_cons]
      split
      next joined =>
        rw [ih (state.follows_next d), spaceIsAlone_joined follows joined, and_assoc]
      next notJoined =>
        rw [List.forall_mem_cons, spaceIsAlone_reverse, ih (ClusterState.follows_start d)]
        have apart := keepsSpaceApart_of_not_joins follows notJoined
        simp [apart, spaceIsAlone_singleton]

/-- Every space is a cluster of its own exactly if no neighbour takes it into its own cluster. -/
theorem clusters_spaceIsAlone (text : List Char) :
    (∀ cluster ∈ clusters text, SpaceIsAlone cluster) ↔ List.IsChain KeepsSpaceApart text := by
  cases text with
  | nil => simp [clusters]
  | cons c text =>
      rw [clusters, clustersFrom_spaceIsAlone (ClusterState.follows_start c)]
      simp [spaceIsAlone_singleton]

/-! ## Words -/

/-- The clusters of a text that are not there to separate words. -/
def wordClusters (text : List Char) : List (List Char) :=
  (clusters text).filter fun cluster => !isSeparator cluster

theorem flatten_wordsFrom (before : Option (List Char)) (begun : List Char)
    (clusters : List (List Char)) :
    (wordsFrom before begun clusters).flatten =
      begun ++ (clusters.filter fun cluster => !isSeparator cluster).flatten := by
  induction clusters generalizing before begun with
  | nil => simp [wordsFrom]
  | cons current rest ih =>
      rw [wordsFrom]
      split
      next separates => simp [ih, separates]
      next stays =>
        split <;> simp [ih, stays]

theorem flatten_words (text : List Char) : (words text).flatten = (wordClusters text).flatten := by
  rw [words, List.flatten_filter_not_isEmpty, flatten_wordsFrom, List.nil_append, wordClusters]

theorem mem_of_mem_words {text word : List Char} (isWord : word ∈ words text) {c : Char}
    (member : c ∈ word) : c ∈ text := by
  have inWords : c ∈ (words text).flatten := List.mem_flatten.mpr ⟨word, isWord, member⟩
  rw [flatten_words, List.mem_flatten] at inWords
  obtain ⟨cluster, isWordCluster, member⟩ := inWords
  rw [← flatten_clusters text]
  exact List.mem_flatten.mpr ⟨cluster, List.mem_of_mem_filter isWordCluster, member⟩

/-- No word holds a space exactly if every space is a cluster of its own. -/
theorem space_notMem_words (text : List Char) :
    (∀ word ∈ words text, ' ' ∉ word) ↔ List.IsChain KeepsSpaceApart text := by
  have inWords : (∀ word ∈ words text, ' ' ∉ word) ↔ ' ' ∉ (wordClusters text).flatten := by
    rw [← flatten_words, List.mem_flatten]
    simp
  rw [inWords, ← clusters_spaceIsAlone, List.mem_flatten]
  constructor
  · intro noSpace cluster isCluster member
    by_contra notAlone
    have isHyphen : ¬ isSeparator cluster := by
      rw [isSeparator]
      rintro separates
      simp only [Bool.or_eq_true, beq_iff_eq] at separates
      rcases separates with (rfl | rfl) | rfl <;> simp at member notAlone
    refine noSpace ⟨cluster, List.mem_filter.mpr ⟨isCluster, ?_⟩, member⟩
    simpa using isHyphen
  · rintro alone ⟨cluster, isWordCluster, member⟩
    obtain ⟨isCluster, stays⟩ := List.mem_filter.mp isWordCluster
    rw [alone cluster isCluster member] at stays
    cases stays

end Polyview.Text
