import Mathlib.Data.List.Forall2
import Mathlib.Data.List.Perm.Basic
import Polyview.Document.Decoding
import Polyview.Proofs.Result

/-!
# Members in any order

The decoders of nodes go through the members of an object one after another. What each of them makes
of the members can be said for one name at a time, and then the order of the members is irrelevant.
-/

namespace Polyview

theorem toOption_bind {α β ε : Type} (result : Except ε α) (next : α → Except ε β) :
    (result >>= next).toOption = result.toOption.bind fun value => (next value).toOption := by
  cases result <;> rfl

/-! ## The member of a name -/

section Gathering

variable {ν β α : Type} (nameOf : ν → Option String) (name : String) (decode : β → Option α)

/-- A further member, where `known` has been read under the name before. The name must not come
again, and every member must have some name. -/
def gather (known : Option α) (member : ν × β) : Option (Option α) :=
  (nameOf member.1).bind fun other =>
    if other = name then
      match known with
      | some _ => none
      | none => (decode member.2).map some
    else some known

/-- What is known of the value under a name behind all of the members. -/
def gathered (known : Option α) (members : List (ν × β)) : Option (Option α) :=
  members.foldlM (gather nameOf name decode) known

variable {nameOf name decode}

theorem gathered_cons (known : Option α) (member : ν × β) (members : List (ν × β)) :
    gathered nameOf name decode known (member :: members) =
      (gather nameOf name decode known member).bind
        fun found => gathered nameOf name decode found members :=
  List.foldlM_cons

theorem gather_comm (known : Option α) (first second : ν × β) :
    ((gather nameOf name decode known first).bind fun found =>
        gather nameOf name decode found second) =
      (gather nameOf name decode known second).bind fun found =>
        gather nameOf name decode found first := by
  unfold gather
  cases firstName : nameOf first.1 with
  | none => simp
  | some one =>
      cases secondName : nameOf second.1 with
      | none => simp
      | some other =>
          by_cases firstHas : one = name <;> by_cases secondHas : other = name
          · cases known <;> cases decode first.2 <;> cases decode second.2 <;>
              simp [firstHas, secondHas]
          · cases known <;> cases decode first.2 <;> simp [firstHas, secondHas]
          · cases known <;> cases decode second.2 <;> simp [firstHas, secondHas]
          · simp [firstHas, secondHas]

/-- What is known under a name does not depend on the order of the members. -/
theorem gathered_perm {first second : List (ν × β)} (permuted : first.Perm second)
    (known : Option α) :
    gathered nameOf name decode known first = gathered nameOf name decode known second := by
  induction permuted generalizing known with
  | nil => rfl
  | cons member _ ih => simp only [gathered_cons, ih]
  | swap one other members =>
      simp only [gathered_cons]
      rw [← Option.bind_assoc, ← Option.bind_assoc, gather_comm]
  | trans _ _ oneIH otherIH => exact (oneIH known).trans (otherIH known)

theorem gathered_congr {first second : List (ν × β)}
    (same : List.Forall₂ (fun one other => one.1 = other.1 ∧ decode one.2 = decode other.2)
      first second) (known : Option α) :
    gathered nameOf name decode known first = gathered nameOf name decode known second := by
  induction same generalizing known with
  | nil => rfl
  | @cons one other _ _ both _ ih =>
      have sameStep :
          gather nameOf name decode known one = gather nameOf name decode known other := by
        simp only [gather, both.1, both.2]
      simp only [gathered_cons, sameStep, ih]

theorem gather_of_nameless {label : ν} (nameless : nameOf label = none) (known : Option α)
    (value : β) : gather nameOf name decode known (label, value) = none := by
  simp [gather, nameless]

theorem gather_of_eq {label : ν} (named : nameOf label = some name) (known : Option α)
    (value : β) :
    gather nameOf name decode known (label, value) =
      match known with
      | some _ => none
      | none => (decode value).map some := by
  simp [gather, named]

theorem gather_of_ne {label : ν} {other : String} (named : nameOf label = some other)
    (unlike : other ≠ name) (known : Option α) (value : β) :
    gather nameOf name decode known (label, value) = some known := by
  simp [gather, named, unlike]

end Gathering

namespace Node

open Json (Value Cause)

theorem gather_eq_once {α : Type} (name : String) (decode : Value → Except Cause α)
    (known : Option α) (value : Value) :
    gather some name (fun value => (decode value).toOption) known (name, value) =
      (once known name (decode value)).toOption := by
  cases known with
  | some found => simp [gather, once, Except.toOption]
  | none => cases decoded : decode value <;> simp [gather, once, decoded, Except.toOption]

/-- What a decoder finds under a name, if it finds anything there at all. -/
def under {α : Type} (name : String) (decode : Value → Except Cause α) (known : Option α)
    (members : List (String × Value)) : Option (Option α) :=
  gathered some name (fun value => (decode value).toOption) known members

section Under

variable {α : Type} {name : String} {decode : Value → Except Cause α}

theorem under_same (known : Option α) (value : Value) (rest : List (String × Value)) :
    under name decode known ((name, value) :: rest) =
      (once known name (decode value)).toOption.bind fun found => under name decode found rest := by
  rw [under, gathered_cons, gather_eq_once]
  rfl

theorem under_other {other : String} (unlike : other ≠ name) (known : Option α) (value : Value)
    (rest : List (String × Value)) :
    under name decode known ((other, value) :: rest) = under name decode known rest := by
  rw [under, gathered_cons, gather_of_ne rfl unlike]
  rfl

end Under

theorem kindOfMembers_eq (known : Option NodeKind) (members : List (String × Value)) :
    (kindOfMembers known members).toOption =
      (under "type" NodeKind.ofValue known members).bind id := by
  induction members generalizing known with
  | nil => cases known <;> rfl
  | cons member rest ih =>
      obtain ⟨name, value⟩ := member
      rw [kindOfMembers]
      by_cases isType : name = "type"
      · subst isType
        rw [if_pos rfl, toOption_bind, under_same, Option.bind_assoc]
        simp only [ih]
      · rw [if_neg isType, under_other isType]
        exact ih known

theorem textOfMembers_eq (content : Option String) (binding : Option (Option String))
    (members : List (String × Value)) :
    (textOfMembers content binding members).toOption =
      (under "content" textOf content members).bind fun content =>
        (under "binding" optionalTextOf binding members).bind fun binding =>
          some (.text (content.getD "") (binding.getD none)) := by
  induction members generalizing content binding with
  | nil => rfl
  | cons member rest ih =>
      obtain ⟨name, value⟩ := member
      rw [textOfMembers]
      by_cases isContent : name = "content"
      · subst isContent
        rw [if_pos rfl, toOption_bind, under_same, under_other (by decide), Option.bind_assoc]
        simp only [ih]
      · rw [if_neg isContent, under_other isContent]
        by_cases isBinding : name = "binding"
        · subst isBinding
          rw [if_pos rfl, toOption_bind, under_same]
          simp only [ih, Option.bind_assoc]
          rw [Option.bind_comm]
        · rw [if_neg isBinding, under_other isBinding]
          exact ih content binding

theorem fieldOfMembers_eq (title : Option String) (binding : Option (Option String))
    (initial : Option String) (members : List (String × Value)) :
    (fieldOfMembers title binding initial members).toOption =
      (under "title" textOf title members).bind fun title =>
        (under "binding" optionalTextOf binding members).bind fun binding =>
          (under "value" textOf initial members).bind fun initial =>
            title.map fun title => .field title (binding.getD none) (initial.getD "") := by
  induction members generalizing title binding initial with
  | nil => cases title <;> rfl
  | cons member rest ih =>
      obtain ⟨name, value⟩ := member
      rw [fieldOfMembers]
      by_cases isTitle : name = "title"
      · subst isTitle
        rw [if_pos rfl, toOption_bind, under_same, under_other (by decide),
          under_other (by decide), Option.bind_assoc]
        simp only [ih]
      · rw [if_neg isTitle, under_other isTitle]
        by_cases isBinding : name = "binding"
        · subst isBinding
          rw [if_pos rfl, toOption_bind, under_same, under_other (by decide)]
          simp only [ih, Option.bind_assoc]
          rw [Option.bind_comm]
        · rw [if_neg isBinding, under_other isBinding]
          by_cases isInitial : name = "value"
          · subst isInitial
            rw [if_pos rfl, toOption_bind, under_same]
            simp only [ih, Option.bind_assoc]
            rw [Option.bind_comm]
            refine congrArg _ (funext fun title => ?_)
            rw [Option.bind_comm]
          · rw [if_neg isInitial, under_other isInitial]
            exact ih title binding initial

theorem descriptionOfMembers_eq (source : Option String) (body : Option (Option String))
    (members : List (String × Value)) :
    (descriptionOfMembers source body members).toOption =
      (under "source" textOf source members).bind fun source =>
        (under "body" optionalTextOf body members).bind fun body =>
          source.map fun source => .description source (body.getD none) := by
  induction members generalizing source body with
  | nil => cases source <;> rfl
  | cons member rest ih =>
      obtain ⟨name, value⟩ := member
      rw [descriptionOfMembers]
      by_cases isSource : name = "source"
      · subst isSource
        rw [if_pos rfl, toOption_bind, under_same, under_other (by decide), Option.bind_assoc]
        simp only [ih]
      · rw [if_neg isSource, under_other isSource]
        by_cases isBody : name = "body"
        · subst isBody
          rw [if_pos rfl, toOption_bind, under_same]
          simp only [ih, Option.bind_assoc]
          rw [Option.bind_comm]
        · rw [if_neg isBody, under_other isBody]
          exact ih source body

theorem stackOfMembers_eq (children : Option (List Node)) (members : List (String × Value)) :
    (stackOfMembers children members).toOption =
      (under "children" childrenOf children members).map fun children =>
        .stack (children.getD []) := by
  induction members generalizing children with
  | nil => rfl
  | cons member rest ih =>
      obtain ⟨name, value⟩ := member
      rw [stackOfMembers.eq_def]
      dsimp only
      by_cases isChildren : name = "children"
      · subst isChildren
        rw [if_pos rfl, under_same, Option.map_bind]
        cases children with
        | some known => rfl
        | none =>
            rw [toOption_bind]
            cases decoded : childrenOf value with
            | error cause => rfl
            | ok nodes => exact ih (some nodes)
      · rw [if_neg isChildren, under_other isChildren]
        exact ih children

/-! ## Values that decode alike -/

/-- Two values cannot be told apart by any decoder, except by the cause of its failure. -/
structure Alike (first second : Value) : Prop where
  text : (textOf first).toOption = (textOf second).toOption
  optionalText : (optionalTextOf first).toOption = (optionalTextOf second).toOption
  kind : (NodeKind.ofValue first).toOption = (NodeKind.ofValue second).toOption
  node : (ofValue first).toOption = (ofValue second).toOption
  children : (childrenOf first).toOption = (childrenOf second).toOption

theorem Alike.refl (value : Value) : Alike value value := ⟨rfl, rfl, rfl, rfl, rfl⟩

theorem Alike.trans {first second third : Value} (one : Alike first second)
    (other : Alike second third) : Alike first third :=
  ⟨one.text.trans other.text, one.optionalText.trans other.optionalText,
    one.kind.trans other.kind, one.node.trans other.node, one.children.trans other.children⟩

/-- Two lists of members hold the same under a name, as far as decoders can tell. -/
def AlikeUnder (name : String) (first second : List (String × Value)) : Prop :=
  ∀ {α : Type} (decode : Value → Except Cause α) (known : Option α),
    (∀ one other, Alike one other → (decode one).toOption = (decode other).toOption) →
      under name decode known first = under name decode known second

section Fields

variable {first second : List (String × Value)}

theorem alikeUnder_of_perm (name : String) (permuted : first.Perm second) :
    AlikeUnder name first second :=
  fun _ known _ => gathered_perm permuted known

theorem alikeUnder_of_forall₂ (name : String)
    (each : List.Forall₂ (fun one other => one.1 = other.1 ∧ Alike one.2 other.2) first second) :
    AlikeUnder name first second := by
  intro α decode known respects
  refine gathered_congr (each.imp fun one other both => ?_) known
  exact ⟨both.1, respects _ _ both.2⟩

/-- Members of another name can be left out. -/
theorem alikeUnder_filter {name other : String} (unlike : other ≠ name)
    (members : List (String × Value)) :
    AlikeUnder name (members.filter fun member => member.1 ≠ other) members := by
  intro α decode known respects
  induction members generalizing known with
  | nil => rfl
  | cons member rest ih =>
      obtain ⟨label, value⟩ := member
      by_cases isOther : label = other
      · subst isOther
        rw [List.filter_cons_of_neg (by simp), under_other unlike]
        exact ih known
      · rw [List.filter_cons_of_pos (by simpa using isOther)]
        by_cases isName : label = name
        · subst isName
          rw [under_same, under_same]
          exact congrArg _ (funext ih)
        · rw [under_other isName, under_other isName]
          exact ih known

theorem kindOfMembers_alike (alike : AlikeUnder "type" first second) :
    (kindOfMembers none first).toOption = (kindOfMembers none second).toOption := by
  rw [kindOfMembers_eq, kindOfMembers_eq, alike _ _ fun _ _ both => both.kind]

/-- The kind of a node is no part of what is decoded from its members. -/
theorem ofMembers_alike (kind : NodeKind)
    (alike : ∀ name, "type" ≠ name → AlikeUnder name first second) :
    (ofMembers kind first).toOption = (ofMembers kind second).toOption := by
  cases kind with
  | text =>
      simp only [ofMembers, textOfMembers_eq]
      rw [alike "content" (by decide) _ _ fun _ _ both => both.text,
        alike "binding" (by decide) _ _ fun _ _ both => both.optionalText]
  | field =>
      simp only [ofMembers, fieldOfMembers_eq]
      rw [alike "title" (by decide) _ _ fun _ _ both => both.text,
        alike "binding" (by decide) _ _ fun _ _ both => both.optionalText,
        alike "value" (by decide) _ _ fun _ _ both => both.text]
  | stack =>
      simp only [ofMembers, stackOfMembers_eq]
      rw [alike "children" (by decide) _ _ fun _ _ both => both.children]
  | description =>
      simp only [ofMembers, descriptionOfMembers_eq]
      rw [alike "source" (by decide) _ _ fun _ _ both => both.text,
        alike "body" (by decide) _ _ fun _ _ both => both.optionalText]

end Fields

theorem ofValue_object (members : List (String × Value)) :
    ofValue (.object members) = kindOfMembers none members >>= fun kind => ofMembers kind members := by
  rw [ofValue]
  refine congrArg _ (funext fun kind => ?_)
  cases kind <;> rfl

/-- Objects whose members hold the same decode alike. -/
theorem Alike.object {first second : List (String × Value)}
    (alike : ∀ name, AlikeUnder name first second) :
    Alike (.object first) (.object second) where
  text := rfl
  optionalText := rfl
  kind := rfl
  node := by
    rw [ofValue_object, ofValue_object, toOption_bind, toOption_bind,
      kindOfMembers_alike (alike "type")]
    refine congrArg _ (funext fun kind => ?_)
    exact ofMembers_alike kind fun name _ => alike name
  children := rfl

section Items

variable {first second : List Value}

theorem noMore_alike (known : Nat) (wanted : String) (alike : List.Forall₂ Alike first second) :
    (noMore known wanted first).toOption = (noMore known wanted second).toOption := by
  cases alike <;> rfl

theorem ofValues_alike (alike : List.Forall₂ Alike first second) :
    (ofValues first).toOption = (ofValues second).toOption := by
  induction alike with
  | nil => rfl
  | cons both _ ih =>
      simp only [ofValues, toOption_bind, both.node, ih]

theorem textOfItems_alike (alike : List.Forall₂ Alike first second) :
    (textOfItems first).toOption = (textOfItems second).toOption := by
  cases alike with
  | nil => rfl
  | cons content rest =>
      cases rest with
      | nil => simp only [textOfItems, toOption_bind, content.text]
      | cons binding more =>
          simp only [textOfItems, toOption_bind, content.text, binding.optionalText,
            noMore_alike 2 _ more]

theorem fieldOfItems_alike (alike : List.Forall₂ Alike first second) :
    (fieldOfItems first).toOption = (fieldOfItems second).toOption := by
  cases alike with
  | nil => rfl
  | cons title rest =>
      cases rest with
      | nil => simp only [fieldOfItems, toOption_bind, title.text]
      | cons binding rest =>
          cases rest with
          | nil => simp only [fieldOfItems, toOption_bind, title.text, binding.optionalText]
          | cons initial more =>
              simp only [fieldOfItems, toOption_bind, title.text, binding.optionalText,
                initial.text, noMore_alike 3 _ more]

theorem descriptionOfItems_alike (alike : List.Forall₂ Alike first second) :
    (descriptionOfItems first).toOption = (descriptionOfItems second).toOption := by
  cases alike with
  | nil => rfl
  | cons source rest =>
      cases rest with
      | nil => simp only [descriptionOfItems, toOption_bind, source.text]
      | cons body more =>
          simp only [descriptionOfItems, toOption_bind, source.text, body.optionalText,
            noMore_alike 2 _ more]

theorem stackOfItems_alike (alike : List.Forall₂ Alike first second) :
    (stackOfItems first).toOption = (stackOfItems second).toOption := by
  cases alike with
  | nil => rfl
  | cons children more =>
      simp only [stackOfItems, toOption_bind, children.children, noMore_alike 1 _ more]

theorem ofItems_alike (kind : NodeKind) (alike : List.Forall₂ Alike first second) :
    (ofItems kind first).toOption = (ofItems kind second).toOption := by
  cases kind with
  | text => exact textOfItems_alike alike
  | field => exact fieldOfItems_alike alike
  | stack => exact stackOfItems_alike alike
  | description => exact descriptionOfItems_alike alike

theorem ofValue_list (kind : Value) (items : List Value) :
    ofValue (.list (kind :: items)) =
      NodeKind.ofValue kind >>= fun kind => ofItems kind items := by
  rw [ofValue]
  refine congrArg _ (funext fun kind => ?_)
  cases kind <;> rfl

/-- Lists whose items decode alike decode alike. -/
theorem Alike.list (alike : List.Forall₂ Alike first second) :
    Alike (.list first) (.list second) where
  text := rfl
  optionalText := rfl
  kind := rfl
  node := by
    cases alike with
    | nil => rfl
    | cons kind items =>
        rw [ofValue_list, ofValue_list, toOption_bind, toOption_bind, kind.kind]
        refine congrArg _ (funext fun kind => ?_)
        exact ofItems_alike kind items
  children := ofValues_alike alike

end Items

end Node

end Polyview
