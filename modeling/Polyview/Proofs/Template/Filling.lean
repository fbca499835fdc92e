import Polyview.Proofs.Result
import Polyview.Template.Library

/-!
# Filling in

What the elements put out that generated files are made of: texts, converted members of the data,
and blocks that are repeated for each item of a list.
-/

namespace Polyview.Template

open Json (Value)

variable {nested : String → Setting → Except Failure String} {setting : Setting}
variable {members : List (String × Value)}

/-! ## Texts -/

theorem indented_nil (text : List Char) : indented [] text = text := by
  induction text with
  | nil => rfl
  | cons c rest ih => cases rest <;> simp_all [indented]

theorem putOut_of_indentation_nil (flush : setting.indentation = []) (text : String) :
    setting.putOut text = text := by
  simp [Setting.putOut, flush, indented_nil]

theorem fillAll_cons {element : Element} {rest : List Element} {text more : String}
    (first : fill nested setting element = .ok text)
    (later : fillAll nested setting rest = .ok more) :
    fillAll nested setting (element :: rest) = .ok (text ++ more) := by
  simp [fillAll, first, later]

theorem fill_text (flush : setting.indentation = []) (text : String) :
    fill nested setting (.text text) = .ok text := by
  simp [fill, putOut_of_indentation_nil flush]

/-! ## Members of the data -/

/-- A setting outside of all blocks, where the data are an object. -/
structure Setting.IsOutermost (setting : Setting) (members : List (String × Value)) : Prop where
  data : setting.data = .object members
  scopes : setting.scopes = [.outermost]
  flush : setting.indentation = []

theorem Setting.isOutermost_start (members : List (String × Value)) :
    (Setting.start (.object members)).IsOutermost members :=
  ⟨rfl, rfl, rfl⟩

theorem evaluate_member {name : String} {value : Value}
    (isMember : members.lookup name = some value) (written : String) :
    evaluate (.object members) [.outermost] (.reference (.path false 0 [name] written)) =
      .ok ⟨some value, some [name], some written⟩ := by
  simp [evaluate, Reference.find, nameGiver?, Scope.outermost, fromBase, atPlace, follow, step,
    isMember]

theorem evaluateAll_member {name : String} {value : Value}
    (isMember : members.lookup name = some value) (written : String) :
    evaluateAll (.object members) [.outermost] [.reference (.path false 0 [name] written)] =
      .ok [⟨some value, some [name], some written⟩] := by
  simp [evaluateAll, evaluate_member isMember]

/-- A member that is a text stands for itself, unless its name is that of a helper. -/
theorem fill_member (isOutermost : setting.IsOutermost members) {name text written : String}
    (notHelper : helper? written = none) (isMember : members.lookup name = some (.text text))
    (place : Place) :
    fill nested setting (.output place (.reference (.path false 0 [name] written))) =
      .ok text := by
  have given := evaluate_member isMember written
  simp [fill, Setting.output, Reference.written, notHelper, isOutermost.data, isOutermost.scopes,
    given, raised, shown, shownChars, putOut_of_indentation_nil isOutermost.flush]

/-- A converted member does not depend on anything else in the data, and is not filled in again. -/
theorem fill_conversion (isOutermost : setting.IsOutermost members) {helper : String}
    {rule : Conversion} (isConversion : helper? helper = some (.conversion rule))
    {name text : String} (isMember : members.lookup name = some (.text text)) (place : Place)
    (written : String) :
    fill nested setting
      (.helper place (.mk helper [.reference (.path false 0 [name] written)] [])) =
        .ok (rule.apply text) := by
  have given := evaluateAll_member isMember written
  simp [fill, Setting.arguments, isOutermost.data, isOutermost.scopes, given, evaluateNamed,
    raised, isConversion, Setting.outputOf, Helper.value, Arguments.text, Given.value, shown,
    shownChars]

/-! ## Items of a list -/

theorem decimalValue_toDigits (number : Nat) :
    Json.decimalValue (Nat.toDigits 10 number) = number := by
  have spelled := Nat.ofDigitChars_ten_toDigits (n := number)
  rw [Nat.ofDigitChars_eq_foldl] at spelled
  simpa only [Json.decimalValue, Json.Magnitude.digitValue, Nat.mul_comm, Char.reduceToNat]
    using spelled

/-- The name that a block gives to a position leads back to it, however long the list is. -/
theorem positionOf?_repr {length position : Nat} (isWithin : position < length) :
    positionOf? length (Nat.repr position) = some position := by
  have allDigits : ∀ c ∈ Nat.toDigits 10 position, c.isDigit = true := fun c member =>
    Nat.isDigit_of_mem_toDigits (by decide) (by decide) member
  have nonempty : (Nat.toDigits 10 position) ≠ [] := Nat.toDigits_ne_nil
  have small : position < max length (Nat.pow 2 64) :=
    Nat.lt_of_lt_of_le isWithin (Nat.le_max_left _ _)
  rw [positionOf?, Nat.toList_repr]
  split
  next digits spelled =>
    have plus := allDigits '+' (by simp [spelled])
    contradiction
  next digits notPlus =>
    simp [nonempty, List.all_eq_true.mpr allDigits, decimalValue_toDigits, small]

/-- The scope that a block opens for an item of a list that is a member of the data. -/
def listScope (name : String) (count position : Nat) : Scope :=
  { base := .place [name, Nat.repr position]
    names := []
    locals := [("first", .boolean (position == 0)), ("last", .boolean (position + 1 == count)),
      ("index", .number (.natural position))] }

/-- The setting for the body of a block that is repeated for the items of a list. -/
def itemSetting (members : List (String × Value)) (name : String) (count position : Nat) :
    Setting :=
  (Setting.start (.object members)).inside [listScope name count position]

/-- A block over a list puts out what its body puts out for each item, one after another. -/
theorem fill_each {name written : String} {items : List Value} {body : List Element}
    {image : Value × Nat → String} (isMember : members.lookup name = some (.list items))
    (each : ∀ item position, items[position]? = some item →
      fillAll nested (itemSetting members name items.length position) body =
        .ok (image (item, position)))
    (place : Option Place) :
    fill nested (.start (.object members))
      (.block place (.mk "each" [.reference (.path false 0 [name] written)] []) .none body none) =
        .ok (String.join (items.zipIdx.map image)) := by
  have given := evaluateAll_member isMember written
  have filled : (items.zipIdx.map fun entry => listScope name items.length entry.2).mapM
      (fun scope => fillAll nested ((Setting.start (.object members)).inside [scope]) body) =
        .ok (items.zipIdx.map image) := by
    rw [List.mapM_map]
    apply mapM_eq_ok
    rintro ⟨item, position⟩ member
    exact each item position (List.mem_zipIdx_iff_getElem?.mp member)
  have scopes : Given.itemScopes? ⟨some (.list items), some [name], some written⟩ .none =
      some (items.zipIdx.map fun entry => listScope name items.length entry.2) := by
    simp [Given.itemScopes?, Given.value, itemScope, listScope, BlockNames.entries]
  have isEach : helper? "each" = some .each := by decide
  -- Whether there is a first scope decides, not which scope it is.
  generalize items.zipIdx.map (fun entry => listScope name items.length entry.2) = opened
    at filled scopes
  generalize items.zipIdx.map image = texts at filled ⊢
  have joined : (do
      let texts ← opened.mapM
        (fun scope => fillAll nested ((Setting.start (.object members)).inside [scope]) body)
      return String.join texts) = (.ok (String.join texts) : Except Failure String) := by
    simp [filled]
  simp only [fill, Setting.arguments, Setting.start, given, evaluateNamed, raised, isEach,
    Arguments.placedAt, scopes, ok_bind, pure_eq_ok, mapError_ok, List.getElem?_cons_zero]
  cases opened with
  | nil => simpa using joined
  | cons first rest => exact congrArg (Except.mapError (Failure.inside place)) joined

theorem follow_item {name : String} {items : List Value} {position : Nat} {item : Value}
    (isMember : members.lookup name = some (.list items)) (isItem : items[position]? = some item) :
    follow (.object members) [name, Nat.repr position] = .ok (some item) := by
  have isWithin : position < items.length := (List.getElem?_eq_some_iff.mp isItem).1
  simp [follow, step, isMember, positionOf?_repr isWithin, isItem]

/-- Inside the block, `this` is the item itself. -/
theorem fill_item {name : String} {items : List Value} {position : Nat} {item : Value}
    (isMember : members.lookup name = some (.list items)) (isItem : items[position]? = some item)
    (place : Place) :
    fill nested (itemSetting members name items.length position)
      (.output place (.reference (.path false 0 [] "this"))) = .ok (shown item) := by
  have notHelper : helper? "this" = none := by decide
  have found := follow_item isMember isItem
  simp [fill, Setting.output, Reference.written, notHelper, evaluate, Reference.find, itemSetting,
    Setting.inside, Setting.start, listScope, fromBase, atPlace, found, raised,
    putOut_of_indentation_nil]

/-- What stands inside the block for every item but the last. -/
theorem fill_unlessLast (name : String) (count position : Nat) (place : Option Place)
    (text : String) :
    fill nested (itemSetting members name count position)
      (.block place (.mk "unless" [.reference (.variable 0 "last" "@last")] []) .none [.text text]
        none) = .ok (if position + 1 = count then "" else text) := by
  have isUnless : helper? "unless" = some (.condition false) := by decide
  have evaluated : evaluateAll (.object members) [listScope name count position, .outermost]
      [.reference (.variable 0 "last" "@last")] =
        .ok [⟨some (.boolean (position + 1 == count)), none, some "@last"⟩] := by
    simp [evaluateAll, evaluate, Reference.find, listScope, List.lookup_cons]
  by_cases isLast : position + 1 = count <;>
    simp [fill, fillAll, Setting.arguments, itemSetting, Setting.inside, Setting.start, evaluated,
      evaluateNamed, raised, isUnless, Arguments.placedAt, Arguments.named?, countsAsTrue,
      Given.value, fillInverse, isLast, putOut_of_indentation_nil]

/-! ## Templates of a library -/

theorem Library.fillNamed_succ {library : Library} {name : String} {elements : List Element}
    (isTemplate : library.template? name = some elements) (depth : Nat) (setting : Setting) :
    library.fillNamed (depth + 1) name setting =
      (fillAll (library.fillNamed depth) { setting with template := some name }
        elements).mapError (Failure.within (some name)) := by
  unfold fillNamed
  simp only [isTemplate]

/-- A template that includes no other one is put out as its elements are filled in. -/
theorem Library.render_of_fillAll {library : Library} {name text : String}
    {elements : List Element} {data : Value} (isTemplate : library.template? name = some elements)
    (filledIn : ∀ nested,
      fillAll nested { Setting.start data with template := some name } elements = .ok text) :
    library.render name data = .ok text := by
  have named := fillNamed_succ isTemplate 999 (.start data)
  rw [filledIn, mapError_ok] at named
  rw [render, has, isTemplate, Option.isSome_some, if_pos rfl]
  exact named

end Polyview.Template
