import Polyview.Proofs.Text.Run
import Polyview.Text.LetterCase
import Polyview.Text.Mark

/-!
# What the case mappings make of letters

A letter or number in lower case is letters and numbers again, except that the dotted capital I gets
a mark of its own. In upper case more letters turn into a letter with marks, but nothing else comes
up.
-/

namespace Polyview.Text

/-! ## Ranges of code points -/

/-- Whether one range of a set holds all code points from one to another. The search ends where that
for the first of them does. -/
def CodeSet.covers (first last : Nat) : CodeSet → Bool
  | [] => false
  | range :: rest =>
      -- plain comparisons of numbers, which are fast to evaluate
      Nat.ble range.1 first && (Nat.ble last range.2 || CodeSet.covers first last rest)

theorem CodeSet.holds_of_covers {set : CodeSet} {first last : Nat}
    (covers : set.covers first last) {code : Nat} (above : first ≤ code) (below : code ≤ last) :
    set.holds code := by
  induction set with
  | nil => cases covers
  | cons range rest ih =>
      rw [CodeSet.covers, Bool.and_eq_true, Bool.or_eq_true, Nat.ble_eq, Nat.ble_eq] at covers
      obtain ⟨notLater, covers⟩ := covers
      rw [CodeSet.holds, if_neg (by omega), Bool.or_eq_true, decide_eq_true_eq]
      exact covers.imp (fun within => below.trans within) ih

/-- Where a run moves the first of its code points. -/
def CaseRun.firstImage (run : CaseRun) : Nat := Int.toNat (run.first + run.shift)

def CaseRun.lastImage (run : CaseRun) : Nat := Int.toNat (run.last + run.shift)

theorem CaseRun.image?_eq_some {run : CaseRun} {code image : Nat}
    (isImage : run.image? code = some image) :
    (run.first ≤ code ∧ code ≤ run.last) ∧ run.firstImage ≤ image ∧ image ≤ run.lastImage := by
  unfold image? at isImage
  split at isImage
  next inside =>
    obtain rfl := Option.some.inj isImage
    simp only [firstImage, lastImage]
    omega
  next => cases isImage

/-- A run moves code points into a set: all of them into one of its ranges, or one by one. -/
def CaseRun.movesInto (set : CodeSet) (run : CaseRun) : Bool :=
  set.covers run.firstImage run.lastImage ||
    (List.range' run.first (run.last + 1 - run.first)).all fun code =>
      (run.image? code).all set.holds

theorem CaseRun.holds_image {run : CaseRun} {set : CodeSet} (moves : run.movesInto set)
    {code image : Nat} (isImage : run.image? code = some image) : set.holds image := by
  obtain ⟨inRun, above, below⟩ := image?_eq_some isImage
  rcases Bool.or_eq_true _ _ ▸ moves with together | apart
  · exact CodeSet.holds_of_covers together above below
  · have holds := List.all_eq_true.mp apart code (List.mem_range'_1.mpr (by omega))
    rwa [isImage] at holds

theorem holds_of_caseImage? {runs : List CaseRun} {set : CodeSet}
    (moves : ∀ run ∈ runs, run.movesInto set) {code image : Nat}
    (isImage : caseImage? runs code = some image) : set.holds image := by
  obtain ⟨run, member, isImage⟩ := List.exists_of_findSome?_eq_some isImage
  exact CaseRun.holds_image (moves run member) isImage

theorem toNat_ofNat {code : Nat} (isValid : code.isValidChar) : (Char.ofNat code).toNat = code := by
  rw [Char.ofNat, dif_pos isValid]
  rfl

/-! ## Letters -/

theorem isValidChar_of_alphabetic {code : Nat} (alphabetic : alphabeticRanges.holds code) :
    code.isValidChar := by
  have inside : ∀ range ∈ alphabeticRanges,
      range.2 < 0xD800 ∨ 0xDFFF < range.1 ∧ range.2 < 0x110000 := by
    decide +kernel
  obtain ⟨range, member, inRange⟩ := CodeSet.exists_range_of_holds alphabetic
  have isInside := inside range member
  rw [List.mem_range'_1] at inRange
  unfold Nat.isValidChar
  omega

theorem isAlphanumeric_of_image {runs : List CaseRun}
    (moves : ∀ run ∈ runs, run.movesInto alphabeticRanges) {code image : Nat}
    (isImage : caseImage? runs code = some image) : isAlphanumeric (Char.ofNat image) := by
  have alphabetic := holds_of_caseImage? moves isImage
  rw [isAlphanumeric, isAlphabetic, toNat_ofNat (isValidChar_of_alphabetic alphabetic), alphabetic]
  rfl

theorem movesInto_of_lowerRuns : ∀ run ∈ lowerRuns, run.movesInto alphabeticRanges := by
  decide +kernel

theorem movesInto_of_upperRuns : ∀ run ∈ upperRuns, run.movesInto alphabeticRanges := by
  decide +kernel

/-- The capital I with a dot, whose form in lower case has the dot as a mark. -/
def dottedCapital : Char := Char.ofNat 0x130

theorem lowerOf_of_alphanumeric {c : Char} (alphanumeric : isAlphanumeric c)
    (notDotted : c ≠ dottedCapital) : ∀ d ∈ lowerOf c, isAlphanumeric d := by
  have otherCode : c.toNat ≠ 0x130 := by
    intro same
    apply notDotted
    rw [dottedCapital, ← same, Char.ofNat_toNat]
  intro d member
  rw [lowerOf, if_neg otherCode] at member
  split at member
  next code isImage =>
    obtain rfl := List.mem_singleton.mp member
    exact isAlphanumeric_of_image movesInto_of_lowerRuns isImage
  next =>
    obtain rfl := List.mem_singleton.mp member
    exact alphanumeric

theorem lowerOf_dottedCapital : lowerOf dottedCapital = ['i', Char.ofNat 0x307] := by
  decide +kernel

/-- Code points of upper-case forms of several characters are letters and marks. -/
theorem longUpperForms_of_letters : ∀ form ∈ longUpperForms, ∀ code ∈ form.2,
    isAlphanumeric (Char.ofNat code) ∨ isExtending (Char.ofNat code) := by
  decide +kernel

theorem upperOf_of_alphanumeric {c : Char} (alphanumeric : isAlphanumeric c) :
    ∀ d ∈ upperOf c, isAlphanumeric d ∨ isExtending d := by
  intro d member
  unfold upperOf at member
  split at member
  next codes isLong =>
    obtain ⟨code, isCode, rfl⟩ := List.mem_map.mp member
    obtain ⟨before, after, isSplit, -⟩ := List.lookup_eq_some_iff.mp isLong
    have isForm : (c.toNat, codes) ∈ longUpperForms := isSplit ▸ by simp
    exact longUpperForms_of_letters _ isForm code isCode
  next =>
    split at member
    next code isImage =>
      obtain rfl := List.mem_singleton.mp member
      exact .inl (isAlphanumeric_of_image movesInto_of_upperRuns isImage)
    next =>
      obtain rfl := List.mem_singleton.mp member
      exact .inl alphanumeric

/-! ## Texts in lower case -/

/-- The characters that a sigma can be in lower case. Which one it is depends on where it stands. -/
def smallSigmas : List Char := [Char.ofNat 0x3C2, Char.ofNat 0x3C3]

theorem mem_lowercaseAfter {before text : List Char} {d : Char}
    (member : d ∈ lowercaseAfter before text) : d ∈ smallSigmas ∨ ∃ c ∈ text, d ∈ lowerOf c := by
  induction text generalizing before with
  | nil => cases member
  | cons c text ih =>
      rw [lowercaseAfter, List.mem_append] at member
      rcases member with first | later
      · split at first
        · left
          split at first <;> obtain rfl := List.mem_singleton.mp first <;> decide
        · exact .inr ⟨c, List.mem_cons_self, first⟩
      · obtain isSmall | ⟨other, isIn, isLower⟩ := ih later
        · exact .inl isSmall
        · exact .inr ⟨other, List.mem_cons_of_mem c isIn, isLower⟩

theorem mem_lowercaseAfter_of_mem {text : List Char} {c d : Char} (isIn : c ∈ text)
    (notSigma : c.toNat ≠ 0x3A3) (isLower : d ∈ lowerOf c) (before : List Char) :
    d ∈ lowercaseAfter before text := by
  induction text generalizing before with
  | nil => cases isIn
  | cons first text ih =>
      rw [lowercaseAfter, List.mem_append]
      rcases List.mem_cons.mp isIn with rfl | later
      · left
        rw [if_neg notSigma]
        exact isLower
      · exact .inr (ih later (first :: before))

end Polyview.Text
