import Mathlib.Data.List.Chain
import Mathlib.Data.List.TakeWhile
import Polyview.Text.Cluster

/-!
# Where clusters end

The state of a cluster sums up the classes of all characters that have been read of it. So whether
the next character belongs to the cluster can be told from these classes: consonants are joined
across marks of which one links, pictographs across a joiner, and halves of flags in pairs. The
clusters of a text are the only pieces of it in which every character belongs to those before it,
while the first one behind each piece does not.
-/

namespace Polyview.Text

namespace ClusterClass

/-- Marks that may stand between two consonants that are joined. -/
def keepsConsonant : ClusterClass → Bool
  | .extending | .linking | .joiner => true
  | _ => false

/-- Marks that may stand between a pictograph and the joiner behind it. -/
def keepsPictograph : ClusterClass → Bool
  | .extending | .linking | .nonJoiner => true
  | _ => false

end ClusterClass

open ClusterClass

/-! ## The state as a summary -/

namespace ClusterState

/-- A state says what is to be known of the classes that have been read: the last one, and those
before it, given backwards. -/
structure Describes (state : ClusterState) (last : ClusterClass) (earlier : List ClusterClass) :
    Prop where
  isLast : state.last = last
  pictured : state.pictured ↔ (earlier.dropWhile keepsPictograph).head? = some .pictograph
  stacked : state.stacked ↔
    ((last :: earlier).dropWhile keepsConsonant).head? = some .consonant
  /-- Links count only behind a consonant. -/
  linked : state.stacked →
    (state.linked ↔ .linking ∈ (last :: earlier).takeWhile keepsConsonant)
  halfFlag : state.halfFlag ↔ ((last :: earlier).takeWhile (· == .regional)).length % 2 = 1

theorem describes_start (first : ClusterClass) : (start first).Describes first [] where
  isLast := rfl
  pictured := by simp [start]
  stacked := by cases first <;> decide
  linked isStacked := by
    obtain rfl : first = .consonant := by simpa [start] using isStacked
    decide
  halfFlag := by cases first <;> decide

variable {state : ClusterState} {last : ClusterClass} {earlier : List ClusterClass}

theorem Describes.next (describes : state.Describes last earlier) (kind : ClusterClass) :
    (state.next kind).Describes kind (last :: earlier) where
  isLast := rfl
  pictured := by
    rw [List.dropWhile_cons]
    cases last <;>
      simp [ClusterState.next, describes.isLast, describes.pictured, keepsPictograph]
  stacked := by
    have stacked := describes.stacked
    rw [List.dropWhile_cons]
    cases kind <;> simp [ClusterState.next, stacked, keepsConsonant]
  linked isStacked := by
    have linked := describes.linked
    rw [List.takeWhile_cons]
    cases kind <;> simp_all [ClusterState.next, keepsConsonant]
  halfFlag := by
    have halfFlag := describes.halfFlag
    rw [List.takeWhile_cons]
    cases kind with
    | regional =>
        simp only [ClusterState.next, beq_self_eq_true, Bool.true_and, Bool.not_eq_true', if_true,
          List.length_cons, ← Bool.not_eq_true, halfFlag]
        omega
    | _ => simp [ClusterState.next]

/-- The state when characters up to a last one have been read, given backwards. -/
def after (last : ClusterClass) : List ClusterClass → ClusterState
  | [] => start last
  | previous :: earlier => (after previous earlier).next last

theorem describes_after (last : ClusterClass) (earlier : List ClusterClass) :
    (after last earlier).Describes last earlier := by
  induction earlier generalizing last with
  | nil => exact describes_start last
  | cons previous earlier ih => exact (ih previous).next last

/-! ## What joins -/

theorem exists_eq_takeWhile_append {test : ClusterClass → Bool} {classes : List ClusterClass}
    {kind : ClusterClass} (isNext : (classes.dropWhile test).head? = some kind) :
    ∃ before, classes = classes.takeWhile test ++ kind :: before := by
  obtain ⟨before, behind⟩ := List.head?_eq_some_iff.mp isNext
  exact ⟨before, by rw [← behind, List.takeWhile_append_dropWhile]⟩

/-- A consonant is joined behind another one and marks, if one of the marks links. -/
theorem Describes.joins_consonant (describes : state.Describes last earlier) :
    state.joins .consonant ↔ last = .leading ∨
      ∃ marks before, last :: earlier = marks ++ .consonant :: before ∧
        (∀ mark ∈ marks, mark.keepsConsonant) ∧ .linking ∈ marks := by
  have conjunct : state.stacked ∧ state.linked ↔
      ∃ marks before, last :: earlier = marks ++ .consonant :: before ∧
        (∀ mark ∈ marks, mark.keepsConsonant) ∧ .linking ∈ marks := by
    constructor
    · rintro ⟨isStacked, isLinked⟩
      obtain ⟨before, whole⟩ := exists_eq_takeWhile_append (describes.stacked.mp isStacked)
      exact ⟨_, before, whole, fun mark isMark => List.mem_takeWhile_imp isMark,
        (describes.linked isStacked).mp isLinked⟩
    · rintro ⟨marks, before, whole, keep, links⟩
      have isStacked : state.stacked := by
        rw [describes.stacked, whole, List.dropWhile_append_of_pos keep]
        rfl
      refine ⟨isStacked, ?_⟩
      rw [describes.linked isStacked, whole, List.takeWhile_append_of_pos keep]
      exact List.mem_append_left _ links
  have stacked := describes.stacked
  rw [← conjunct, joins.eq_def, describes.isLast]
  cases last <;> simp [stacked, keepsConsonant]

/-- A pictograph is joined by a joiner behind another one and marks. -/
theorem Describes.joins_pictograph (describes : state.Describes last earlier) :
    state.joins .pictograph ↔ last = .leading ∨ last = .joiner ∧
      ∃ marks before, earlier = marks ++ .pictograph :: before ∧
        ∀ mark ∈ marks, mark.keepsPictograph := by
  have pictured : state.pictured ↔ ∃ marks before, earlier = marks ++ .pictograph :: before ∧
      ∀ mark ∈ marks, mark.keepsPictograph := by
    rw [describes.pictured]
    constructor
    · intro isPictured
      obtain ⟨before, whole⟩ := exists_eq_takeWhile_append isPictured
      exact ⟨_, before, whole, fun mark isMark => List.mem_takeWhile_imp isMark⟩
    · rintro ⟨marks, before, rfl, keep⟩
      rw [List.dropWhile_append_of_pos keep]
      rfl
  rw [← pictured, joins.eq_def, describes.isLast]
  cases last <;> simp

/-- Half of a flag is joined to a half that is left over in front of it. -/
theorem Describes.joins_regional (describes : state.Describes last earlier) :
    state.joins .regional ↔
      last = .leading ∨ ((last :: earlier).takeWhile (· == .regional)).length % 2 = 1 := by
  have halfFlag := describes.halfFlag
  rw [joins.eq_def, describes.isLast]
  cases last <;> simp_all

end ClusterState

/-! ## Cutting a text -/

/-- Whether a character belongs to the cluster of those before it, which are given backwards. -/
def BelongsTo : List Char → Char → Prop
  | [], _ => False
  | last :: earlier, c => (ClusterState.after (.of last) (earlier.map .of)).joins (.of c)

/-- Characters, given backwards, of which each belongs to those before it. -/
def IsCluster : List Char → Prop
  | [] => False
  | [_] => True
  | c :: last :: earlier => BelongsTo (last :: earlier) c ∧ IsCluster (last :: earlier)

/-- Pieces of a text that are clusters and do not go on in the next piece. -/
structure AreClusters (pieces : List (List Char)) : Prop where
  each : ∀ piece ∈ pieces, IsCluster piece.reverse
  apart : pieces.IsChain fun piece next => ∀ c ∈ next.head?, ¬ BelongsTo piece.reverse c

theorem flatten_clustersFrom (state : ClusterState) (begun text : List Char) :
    (clustersFrom state begun text).flatten = begun.reverse ++ text := by
  induction text generalizing state begun with
  | nil => simp [clustersFrom]
  | cons c text ih =>
      rw [clustersFrom]
      split
      · rw [ih, List.reverse_cons, List.append_assoc, List.singleton_append]
      · rw [List.flatten_cons, ih]
        rfl

theorem flatten_clusters (text : List Char) : (clusters text).flatten = text := by
  cases text with
  | nil => rfl
  | cons c text => exact flatten_clustersFrom _ [c] text

theorem IsCluster.of_append {later read : List Char} (isCluster : IsCluster (later ++ read))
    (notEmpty : read ≠ []) : IsCluster read := by
  induction later with
  | nil => exact isCluster
  | cons c later ih =>
      obtain ⟨last, earlier, whole⟩ :=
        List.exists_cons_of_ne_nil (List.append_ne_nil_of_right_ne_nil later notEmpty)
      rw [List.cons_append, whole] at isCluster
      rw [whole] at ih
      exact ih isCluster.2

/-- A text begins with the first character of its first cluster. -/
theorem AreClusters.head?_flatten {piece : List Char} {pieces : List (List Char)}
    (areClusters : AreClusters (piece :: pieces)) :
    (piece :: pieces).flatten.head? = piece.head? := by
  cases piece with
  | nil => cases areClusters.each [] List.mem_cons_self
  | cons c piece => rfl

/-! ## Reading clusters -/

/-- The clusters of a text behind characters of its first cluster, which are given backwards. -/
def clustersAfter (last : Char) (earlier text : List Char) : List (List Char) :=
  clustersFrom (.after (.of last) (earlier.map .of)) (last :: earlier) text

section Reading

variable {last c : Char} {earlier : List Char}

theorem clustersAfter_of_belongs (belongs : BelongsTo (last :: earlier) c) (rest : List Char) :
    clustersAfter last earlier (c :: rest) = clustersAfter c (last :: earlier) rest := by
  rw [clustersAfter, clustersFrom]
  exact if_pos belongs

theorem clustersAfter_of_not_belongs (ends : ¬ BelongsTo (last :: earlier) c)
    (rest : List Char) :
    clustersAfter last earlier (c :: rest) =
      (last :: earlier).reverse :: clusters (c :: rest) := by
  rw [clustersAfter, clustersFrom]
  exact if_neg ends

theorem areClusters_clustersAfter (isCluster : IsCluster (last :: earlier)) (text : List Char) :
    AreClusters (clustersAfter last earlier text) := by
  induction text generalizing last earlier with
  | nil => exact ⟨by simpa [clustersAfter, clustersFrom] using isCluster, List.isChain_singleton _⟩
  | cons c text ih =>
      by_cases belongs : BelongsTo (last :: earlier) c
      · have goesOn : IsCluster (c :: last :: earlier) := ⟨belongs, isCluster⟩
        rw [clustersAfter_of_belongs belongs]
        exact ih goesOn
      · have begins : IsCluster [c] := trivial
        have areLater : AreClusters (clusters (c :: text)) := ih begins
        rw [clustersAfter_of_not_belongs belongs]
        constructor
        · exact List.forall_mem_cons.mpr ⟨by rwa [List.reverse_reverse], areLater.each⟩
        · refine List.isChain_cons.mpr ⟨?_, areLater.apart⟩
          intro next isNext d isFirst
          obtain ⟨others, whole⟩ := List.head?_eq_some_iff.mp isNext
          have sameFirst := (whole ▸ areLater).head?_flatten
          rw [← whole, flatten_clusters, isFirst] at sameFirst
          obtain rfl := Option.some.inj sameFirst
          rwa [List.reverse_reverse]

/-- Reading goes on to the end of a cluster, and starts anew behind it. -/
theorem clustersAfter_append {more rest : List Char}
    (isCluster : IsCluster (more.reverse ++ last :: earlier))
    (ends : ∀ c ∈ rest.head?, ¬ BelongsTo (more.reverse ++ last :: earlier) c) :
    clustersAfter last earlier (more ++ rest) =
      ((last :: earlier).reverse ++ more) :: clusters rest := by
  induction more generalizing last earlier with
  | nil =>
      cases rest with
      | nil => simp [clustersAfter, clustersFrom, clusters]
      | cons c rest =>
          rw [List.nil_append, List.append_nil]
          exact clustersAfter_of_not_belongs (ends c rfl) rest
  | cons c more ih =>
      rw [List.reverse_cons, List.append_assoc, List.singleton_append] at isCluster ends
      have belongs := (isCluster.of_append (List.cons_ne_nil c _)).1
      rw [List.cons_append, clustersAfter_of_belongs belongs, ih isCluster ends]
      simp

end Reading

/-- The clusters of a text are the only clusters that it can be cut into so that none of them goes
on in the next one. -/
theorem clusters_eq_iff {text : List Char} {pieces : List (List Char)} :
    clusters text = pieces ↔ pieces.flatten = text ∧ AreClusters pieces := by
  constructor
  · rintro rfl
    refine ⟨flatten_clusters text, ?_⟩
    cases text with
    | nil => exact ⟨by simp [clusters], List.isChain_nil⟩
    | cons c text =>
        have begins : IsCluster [c] := trivial
        exact areClusters_clustersAfter begins text
  · rintro ⟨rfl, areClusters⟩
    induction pieces with
    | nil => rfl
    | cons piece pieces ih =>
        obtain ⟨isCluster, areLater⟩ := List.forall_mem_cons.mp areClusters.each
        obtain ⟨ends, apart⟩ := List.isChain_cons.mp areClusters.apart
        have later := ih ⟨areLater, apart⟩
        cases piece with
        | nil => cases isCluster
        | cons c more =>
            rw [List.reverse_cons] at isCluster ends
            have endsThere : ∀ d ∈ pieces.flatten.head?, ¬ BelongsTo (more.reverse ++ [c]) d := by
              cases pieces with
              | nil => simp
              | cons next others =>
                  have sameFirst : (next :: others).flatten.head? = next.head? :=
                    AreClusters.head?_flatten ⟨areLater, apart⟩
                  rw [sameFirst]
                  exact ends next rfl
            have whole := clustersAfter_append isCluster endsThere
            rw [later] at whole
            exact whole

/-- The joiner between two consonants leaves them joined, and the non-joiner keeps them apart. -/
example :
    clusters "\u0915\u094D\u200D\u0937".toList = ["\u0915\u094D\u200D\u0937".toList] ∧
      clusters "\u0915\u094D\u200C\u0937".toList =
        ["\u0915\u094D\u200C".toList, "\u0937".toList] := by
  decide +kernel

end Polyview.Text
