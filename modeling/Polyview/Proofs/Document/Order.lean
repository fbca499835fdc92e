import Mathlib.Data.List.Pairwise
import Polyview.Proofs.Document.Evaluation

/-!
# The order of members is irrelevant

Two JSON texts that differ only in the order of the members in their objects, and in blanks,
describe the same document or none. What a name stands for is gathered from the members in any order; only in
the table of texts a later entry could replace an earlier one, if it had the same name.
-/

namespace Polyview

open Json

/-! ## Lists of parts that may be missing -/

section Parts

variable {α β : Type} {function : α → Option β}

theorem mapM_perm {first second : List α} (permuted : first.Perm second) :
    Option.Rel List.Perm (first.mapM function) (second.mapM function) := by
  induction permuted with
  | nil => exact .some .nil
  | @cons part one other _ ih =>
      rw [List.mapM_cons, List.mapM_cons]
      generalize one.mapM function = images, other.mapM function = others at ih
      cases function part with
      | none => exact .none
      | some image =>
          cases ih with
          | none => exact .none
          | some images => exact .some (images.cons image)
  | swap one other rest =>
      simp only [List.mapM_cons]
      cases function one <;> cases function other <;> cases rest.mapM function <;>
        first
        | exact .none
        | exact .some (.swap _ _ _)
  | @trans one two three _ _ oneIH otherIH =>
      generalize one.mapM function = first, two.mapM function = second,
        three.mapM function = third at oneIH otherIH ⊢
      cases oneIH with
      | none => exact otherIH
      | some one =>
          cases otherIH with
          | some other => exact .some (one.trans other)

theorem mapM_forall₂ {related : β → β → Prop} {first second : List α}
    (each : List.Forall₂ (fun one other => Option.Rel related (function one) (function other))
      first second) :
    Option.Rel (List.Forall₂ related) (first.mapM function) (second.mapM function) := by
  induction each with
  | nil => exact .some .nil
  | @cons one other ones others both _ ih =>
      rw [List.mapM_cons, List.mapM_cons]
      generalize function one = image, function other = another at both
      generalize ones.mapM function = images, others.mapM function = rest at ih
      cases both with
      | none => exact .none
      | some both =>
          cases ih with
          | none => exact .none
          | some rest => exact .some (.cons both rest)

theorem filterMap_of_mapM {parts : List α} {images : List β}
    (each : parts.mapM function = some images) : images = parts.filterMap function := by
  induction parts generalizing images with
  | nil =>
      rw [List.mapM_nil] at each
      exact (Option.some.inj each).symm
  | cons part parts ih =>
      rw [List.mapM_cons] at each
      obtain ⟨image, isImage, each⟩ := Option.bind_eq_some_iff.mp each
      obtain ⟨others, areImages, each⟩ := Option.bind_eq_some_iff.mp each
      rw [List.filterMap_cons_some isImage, ← ih areImages]
      exact (Option.some.inj each).symm

theorem forall₂_replaced {related : α → α → Prop} (same : ∀ part, related part part)
    (before behind : List α) {first second : α} (both : related first second) :
    List.Forall₂ related (before ++ first :: behind) (before ++ second :: behind) := by
  induction before with
  | nil => exact .cons both (List.forall₂_same.mpr fun part _ => same part)
  | cons part before ih => exact .cons (same part) ih

theorem map_rel {γ : Type} {related : β → β → Prop} {other : γ → γ → Prop} {image : β → γ}
    {first second : Option β} (both : Option.Rel related first second)
    (images : ∀ one two, related one two → other (image one) (image two)) :
    Option.Rel other (first.map image) (second.map image) := by
  cases both with
  | none => exact .none
  | some both => exact .some (images _ _ both)

end Parts

/-! ## Values -/

namespace Json.Phrase

theorem values?_eq (depth : Nat) (items : List Phrase) :
    values? depth items = items.mapM (value? depth) := by
  induction items with
  | nil => rfl
  | cons item items ih =>
      rw [values?, List.mapM_cons, ih]
      cases item.value? depth with
      | none => rfl
      | some value => cases items.mapM (Phrase.value? depth) <;> rfl

/-- A member of an object with its value. -/
def memberValue? (depth : Nat) (member : List TextUnit × Phrase) : Option (String × Value) :=
  (TextUnit.text? member.1).bind fun name => (member.2.value? depth).map fun value => (name, value)

theorem memberValues?_eq (depth : Nat) (members : List (List TextUnit × Phrase)) :
    memberValues? depth members = members.mapM (memberValue? depth) := by
  induction members with
  | nil => rfl
  | cons member members ih =>
      obtain ⟨units, phrase⟩ := member
      rw [memberValues?, List.mapM_cons, ih, memberValue?]
      dsimp only
      cases TextUnit.text? units with
      | none => rfl
      | some name =>
          cases phrase.value? depth with
          | none => rfl
          | some value => cases members.mapM (memberValue? depth) <;> rfl

theorem value?_same (depth : Nat) (phrase : Phrase) :
    Option.Rel Node.Alike (phrase.value? depth) (phrase.value? depth) := by
  cases phrase.value? depth with
  | none => exact .none
  | some value => exact .some (.refl value)

theorem memberValue?_rel {depth : Nat} {first second : Phrase} (units : List TextUnit)
    (alike : Option.Rel Node.Alike (first.value? depth) (second.value? depth)) :
    Option.Rel (fun one other => one.1 = other.1 ∧ Node.Alike one.2 other.2)
      (memberValue? depth (units, first)) (memberValue? depth (units, second)) := by
  unfold memberValue?
  cases TextUnit.text? units with
  | none => exact .none
  | some name => exact map_rel alike fun _ _ both => ⟨rfl, both⟩

/-- A reordered phrase has a value that decodes alike, or none if the phrase has none. -/
theorem Reordered.value? {first second : Phrase} (reordered : Reordered first second)
    (depth : Nat) : Option.Rel Node.Alike (first.value? depth) (second.value? depth) := by
  induction reordered generalizing depth with
  | same phrase => exact value?_same depth phrase
  | @trans first second third _ _ oneIH otherIH =>
      have one := oneIH depth
      have other := otherIH depth
      generalize first.value? depth = value, second.value? depth = middle,
        third.value? depth = last at one other ⊢
      cases one with
      | none => exact other
      | some one =>
          cases other with
          | some other => exact .some (one.trans other)
  | members permuted =>
      cases depth with
      | zero => exact .none
      | succ depth =>
          rw [Phrase.value?, Phrase.value?, memberValues?_eq, memberValues?_eq]
          refine map_rel (mapM_perm permuted) fun one other permuted => ?_
          exact .object fun name => Node.alikeUnder_of_perm name permuted
  | inItem before behind _ ih =>
      cases depth with
      | zero => exact .none
      | succ depth =>
          rw [Phrase.value?, Phrase.value?, values?_eq, values?_eq]
          refine map_rel (mapM_forall₂ ?_) fun one other => .list
          exact forall₂_replaced (value?_same depth) before behind (ih depth)
  | inMember before behind units _ ih =>
      cases depth with
      | zero => exact .none
      | succ depth =>
          rw [Phrase.value?, Phrase.value?, memberValues?_eq, memberValues?_eq]
          refine map_rel (mapM_forall₂ (forall₂_replaced ?_ before behind
            (memberValue?_rel units (ih depth)))) fun one other each => ?_
          · exact fun member => memberValue?_rel member.1 (value?_same depth member.2)
          · exact .object fun name => Node.alikeUnder_of_forall₂ name each

/-! ## Tables, kinds and roots -/

theorem Reordered.plainText? {first second : Phrase} (reordered : Reordered first second) :
    first.plainText? = second.plainText? := by
  induction reordered with
  | same | members | inItem | inMember => rfl
  | trans _ _ oneIH otherIH => exact oneIH.trans otherIH

theorem Reordered.kindWord? {first second : Phrase} (reordered : Reordered first second) :
    first.kindWord? = second.kindWord? := by
  rw [Phrase.kindWord?, Phrase.kindWord?, reordered.plainText?]

/-- What is gathered under a name is the same if one member is replaced by one that decodes to the
same. -/
theorem gathered_replaced {α : Type} {name : String} {decode : Phrase → Option α}
    (before behind : List (List TextUnit × Phrase)) (units : List TextUnit) {first second : Phrase}
    (same : decode first = decode second) (known : Option α) :
    gathered TextUnit.text? name decode known (before ++ (units, first) :: behind) =
      gathered TextUnit.text? name decode known (before ++ (units, second) :: behind) := by
  refine gathered_congr (forall₂_replaced ?_ before behind ?_) known
  · exact fun _ => ⟨rfl, rfl⟩
  · exact ⟨rfl, same⟩

theorem Reordered.rootKind? {first second : Phrase} (reordered : Reordered first second) :
    first.rootKind? = second.rootKind? := by
  induction reordered with
  | same => rfl
  | trans _ _ oneIH otherIH => exact oneIH.trans otherIH
  | members permuted => rw [Phrase.rootKind?, Phrase.rootKind?, gathered_perm permuted]
  | inItem before behind inside =>
      cases before with
      | nil => exact inside.kindWord?
      | cons => rfl
  | inMember before behind units inside =>
      rw [Phrase.rootKind?, Phrase.rootKind?, gathered_replaced before behind units inside.kindWord?]

theorem Reordered.root? {first second : Phrase} (reordered : Reordered first second)
    (depth : Nat) : first.root? depth = second.root? depth := by
  have alike := reordered.value? depth
  rw [Phrase.root?, Phrase.root?, reordered.rootKind?]
  generalize first.value? depth = value, second.value? depth = other at alike ⊢
  cases alike with
  | none => rfl
  | some both => rw [Option.bind_some, Option.bind_some, both.node]

end Json.Phrase

namespace TextTable

/-- Entries of different names can be put in in either order. -/
theorem insertEntry_comm {one other : String} (unlike : one ≠ other) (text another : String)
    (entries : List (String × String)) :
    insertEntry one text (insertEntry other another entries) =
      insertEntry other another (insertEntry one text entries) := by
  -- In every order of the two names and the first entry's both sides begin alike.
  induction entries with
  | nil =>
      simp only [insertEntry]
      grind
  | cons entry rest ih =>
      simp only [insertEntry]
      grind [insertEntry]

theorem insert_comm (table : TextTable) {one other : String} (unlike : one ≠ other)
    (text another : String) :
    (table.insert other another).insert one text =
      (table.insert one text).insert other another := by
  have same := insertEntry_comm unlike text another table.entries
  simp only [insert, same]

/-- Entries of which no two have the same name make the same table in any order. -/
theorem insertAll_perm (table : TextTable) {first second : List (String × String)}
    (permuted : first.Perm second)
    (unlike : first.Pairwise fun one other => one.1 ≠ other.1) :
    Phrase.insertAll table first = Phrase.insertAll table second := by
  have symmetric : Std.Symm fun one other : String × String => one.1 ≠ other.1 :=
    ⟨fun _ _ differ => differ.symm⟩
  refine permuted.foldl_eq' (fun one isOne other isOther table => ?_) table
  by_cases same : one = other
  · rw [same]
  · exact insert_comm table (unlike.forall isOther isOne (Ne.symm same)) _ _

end TextTable

namespace Json.Phrase

theorem textMember?_replaced (before behind : List (List TextUnit × Phrase))
    (units : List TextUnit) {first second : Phrase} (same : first.plainText? = second.plainText?) :
    (before ++ (units, first) :: behind).mapM textMember? =
      (before ++ (units, second) :: behind).mapM textMember? := by
  have sameMember : textMember? (units, first) = textMember? (units, second) := by
    rw [textMember?, textMember?, same]
  rw [List.mapM_append, List.mapM_append, List.mapM_cons, List.mapM_cons, sameMember]

theorem names_differ_of_members {members : List (List TextUnit × Phrase)}
    (differ : members.Pairwise NamesDiffer) :
    (members.filterMap textMember?).Pairwise fun one other => one.1 ≠ other.1 := by
  refine differ.filterMap textMember? fun one other differ entry isEntry another isAnother => ?_
  obtain ⟨name, isName, isText⟩ := Option.bind_eq_some_iff.mp isEntry
  obtain ⟨otherName, isOther, isOtherText⟩ := Option.bind_eq_some_iff.mp isAnother
  obtain ⟨text, -, rfl⟩ := Option.map_eq_some_iff.mp isText
  obtain ⟨otherText, -, rfl⟩ := Option.map_eq_some_iff.mp isOtherText
  rintro rfl
  exact differ name isName isOther

/-- A table without repeated names is the same after its entries have been reordered. -/
theorem Reordered.table? {first second : Phrase} (reordered : Reordered first second)
    (once : NamesOnce first) : first.table? = second.table? := by
  induction reordered with
  | same | inItem => rfl
  | trans one _ oneIH otherIH => exact (oneIH once).trans (otherIH (one.namesOnce once))
  | inMember before behind units inside =>
      rw [Phrase.table?, Phrase.table?, textMember?_replaced before behind units inside.plainText?]
  | @members first second permuted =>
      cases once with
      | object differ =>
          have related : Option.Rel List.Perm (first.mapM textMember?) (second.mapM textMember?) :=
            mapM_perm permuted
          rw [Phrase.table?, Phrase.table?]
          cases read : first.mapM textMember? with
          | none =>
              rw [read] at related
              generalize second.mapM textMember? = entries at related ⊢
              cases related
              rfl
          | some entries =>
              have unlike := names_differ_of_members differ
              rw [← filterMap_of_mapM read] at unlike
              rw [read] at related
              generalize second.mapM textMember? = others at related ⊢
              cases related with
              | some permuted =>
                  exact congrArg some (TextTable.insertAll_perm .empty permuted unlike)

/-! ## Documents -/

/-- Only a list of two items describes a document. -/
theorem document?_of_length_ne {items : List Phrase} (noPair : items.length ≠ 2) (depth : Nat) :
    (Phrase.list items).document? depth = none := by
  unfold Phrase.document?
  split
  next isObject => cases isObject
  next isList =>
    cases isList
    exact absurd rfl noPair
  next => rfl

/-- A reordered phrase without repeated names describes the same document, or none if the phrase
describes none. -/
theorem Reordered.document? {first second : Phrase} (reordered : Reordered first second)
    (once : NamesOnce first) (depth : Nat) : first.document? depth = second.document? depth := by
  induction reordered with
  | same => rfl
  | trans one _ oneIH otherIH => exact (oneIH once).trans (otherIH (one.namesOnce once))
  | members permuted =>
      cases depth with
      | zero => rfl
      | succ depth =>
          rw [Phrase.document?, Phrase.document?, documentOf?, documentOf?,
            gathered_perm permuted, gathered_perm permuted]
  | inItem before behind inside =>
      cases once with
      | list insideOnce =>
          rw [List.forall_mem_append, List.forall_mem_cons] at insideOnce
          cases depth with
          | zero => rfl
          | succ depth =>
              have sameTable := inside.table? insideOnce.2.1
              have sameRoot := inside.root? depth
              by_cases isPair : before.length + behind.length = 1
              · rcases Nat.add_eq_one_iff.mp isPair with ⟨noneBefore, one⟩ | ⟨one, noneBehind⟩
                · obtain rfl := List.length_eq_zero_iff.mp noneBefore
                  obtain ⟨root, rfl⟩ := List.length_eq_one_iff.mp one
                  simp only [List.nil_append, Phrase.document?, sameTable]
                · obtain rfl := List.length_eq_zero_iff.mp noneBehind
                  obtain ⟨state, rfl⟩ := List.length_eq_one_iff.mp one
                  simp only [List.cons_append, List.nil_append, Phrase.document?, sameRoot]
              · have noPair (item : Phrase) : (before ++ item :: behind).length ≠ 2 := by
                  simp only [List.length_append, List.length_cons]
                  omega
                rw [document?_of_length_ne (noPair _), document?_of_length_ne (noPair _)]
  | inMember before behind units inside =>
      cases once with
      | object _ insideOnce =>
          rw [List.forall_mem_append, List.forall_mem_cons] at insideOnce
          cases depth with
          | zero => rfl
          | succ depth =>
              have sameTable := inside.table? insideOnce.2.1
              rw [Phrase.document?, Phrase.document?, documentOf?, documentOf?,
                gathered_replaced before behind units sameTable,
                gathered_replaced before behind units (inside.root? depth)]

end Json.Phrase

namespace Document

/-- The order of members never matters. Two JSON texts that differ at most in blanks and in the order
of the members in their objects, at any depth, and in which no object has a name twice, are both
refused, or both are read as the same document. -/
theorem member_order_is_irrelevant {phrase other : Phrase} (reordered : phrase.Reordered other)
    (once : phrase.NamesOnce) {first second : String} (firstText : phrase.IsText first)
    (secondText : other.IsText second) :
    (∃ fault otherFault, ofJson first = .error fault ∧ ofJson second = .error otherFault) ∨
      ∃ document, ofJson first = .ok document ∧ ofJson second = .ok document := by
  have same : (ofJson first).toOption = (ofJson second).toOption := by
    rw [toOption_ofJson firstText, toOption_ofJson secondText, reordered.document? once]
  cases firstRead : ofJson first with
  | error fault =>
      cases secondRead : ofJson second with
      | error otherFault => exact .inl ⟨fault, otherFault, rfl, rfl⟩
      | ok document => simp [firstRead, secondRead, Except.toOption] at same
  | ok document =>
      cases secondRead : ofJson second with
      | error fault => simp [firstRead, secondRead, Except.toOption] at same
      | ok otherDocument =>
          have equal : document = otherDocument := by
            simpa [firstRead, secondRead, Except.toOption] using same
          exact .inr ⟨document, rfl, by rw [equal]⟩

/-- The kind of a node behind its other members, and a table behind the root. -/
theorem member_order_is_irrelevant_of_kind_last :
    let name (text : List Char) (isPlain : ∀ c ∈ text, c ≠ '"' ∧ c ≠ '\\' ∧ 0x20 ≤ c.toNat) :=
      text.pmap TextUnit.plain isPlain
    let content := (name ['c', 'o', 'n', 't', 'e', 'n', 't'] (by simp), Phrase.text [])
    let word := name ['t', 'e', 'x', 't'] (by simp)
    let kind := (name ['t', 'y', 'p', 'e'] (by simp), Phrase.text word)
    let root := name ['r', 'o', 'o', 't'] (by simp)
    let state := (name ['s', 't', 'a', 't', 'e'] (by simp), Phrase.object [])
    let phrase := Phrase.object [(root, .object [content, kind]), state]
    let other := Phrase.object [state, (root, .object [kind, content])]
    let first := "\x7b\"root\":\x7b\"content\":\"\",\"type\":\"text\"\x7d,\"state\":\x7b\x7d\x7d"
    let second :=
      "\x7b \"state\": \x7b\x7d,\"root\" :\x7b\"type\":\"text\" ,\"content\":\"\"\x7d\x7d\n"
    phrase.Reordered other ∧ phrase.NamesOnce ∧ phrase.IsText first ∧ other.IsText second ∧
      ofJson first = .ok ⟨.empty, .text "" none⟩ ∧
      ((∃ fault otherFault, ofJson first = .error fault ∧ ofJson second = .error otherFault) ∨
        ∃ document, ofJson first = .ok document ∧ ofJson second = .ok document) := by
  intro name content word kind root state phrase other first second
  have reordered : phrase.Reordered other :=
    .trans (.inMember [] [state] root (.members (.swap kind content []))) (.members (.swap _ _ _))
  have differ {one other : List TextUnit × Phrase}
      (unlike : TextUnit.text? one.1 ≠ TextUnit.text? other.1) : Phrase.NamesDiffer one other :=
    fun _ isOne isOther => unlike (isOne.trans isOther.symm)
  have once : phrase.NamesOnce := by
    have rootOnce : Phrase.NamesOnce (.object [content, kind]) := by
      refine .object (List.pairwise_pair.mpr (differ (by decide +kernel))) ?_
      simpa using ⟨.text _, .text _⟩
    refine .object (List.pairwise_pair.mpr (differ (by decide +kernel))) ?_
    simpa using ⟨rootOnce, .object .nil (by simp)⟩
  have empty := Writes.object (.noMember true isGap_nil)
  have firstText : phrase.IsText first := by
    have node := Writes.object (.member true content.1 isGap_nil isGap_nil isGap_nil isGap_nil
      (.text []) (.member false kind.1 isGap_nil isGap_nil isGap_nil isGap_nil (.text word)
        (.noMember false isGap_nil)))
    have written := Writes.object (.member true root isGap_nil isGap_nil isGap_nil isGap_nil node
      (.member false state.1 isGap_nil isGap_nil isGap_nil isGap_nil empty
        (.noMember false isGap_nil)))
    refine ⟨[], _, [], isGap_nil, written, isGap_nil, ?_⟩
    simp only [first, String.reduceToList]
    rfl
  have secondText : other.IsText second := by
    have node := Writes.object (.member true kind.1 isGap_nil isGap_nil isGap_nil isGap_nil
      (.text word) (.member false content.1 isGap_space isGap_nil isGap_nil isGap_nil (.text [])
        (.noMember false isGap_nil)))
    have written := Writes.object (.member true state.1 isGap_nil isGap_space isGap_nil isGap_space
      empty (.member false root isGap_nil isGap_nil isGap_space isGap_nil node
        (.noMember false isGap_nil)))
    refine ⟨[], _, ['\n'], isGap_nil, written, isGap_newLine 0, ?_⟩
    simp only [second, String.reduceToList]
    rfl
  have read : ofJson first = .ok ⟨.empty, .text "" none⟩ := by
    simp only [first, ofJson, String.reduceToList]
    rfl
  exact ⟨reordered, once, firstText, secondText, read,
    member_order_is_irrelevant reordered once firstText secondText⟩

end Document

end Polyview
