import Mathlib.Algebra.GroupWithZero.Nat
import Polyview.Proofs.Escape.StringLiteral
import Polyview.Proofs.Escape.TypeName
import Polyview.Proofs.Text.Occurrence
import Polyview.Render.Macos

/-!
# Declarations of the content view

A document for macOS is to declare one content view. Each description declares one of its own, and
the document adds another one unless the whole tree is a description. The declarations in a document
are counted piece by piece, for all trees whose texts have none.
-/

namespace Polyview

open Text (occurrences EndsApart BeginsApart occurrences_append_of_endsApart
  occurrences_append_of_beginsApart occurrences_append_last occurrences_eq_zero_iff)

namespace View

mutual

/-- The texts that a tree shows, and the lines that its descriptions declare state with. -/
def texts (store : Store) : View → List String
  | .label content => [content]
  | .field title binding => [title, binding.read store]
  | .stack children => textsAll store children
  | .description text declared => text :: declared.map StateVariable.declaration

def textsAll (store : Store) : List View → List String
  | [] => []
  | view :: rest => view.texts store ++ textsAll store rest

end

mutual

/-- The number of descriptions in a tree. -/
def descriptionCount : View → Nat
  | .label _ | .field _ _ => 0
  | .stack children => descriptionCountAll children
  | .description _ _ => 1

def descriptionCountAll : List View → Nat
  | [] => 0
  | view :: rest => view.descriptionCount + descriptionCountAll rest

end

def isDescription : View → Bool
  | .description _ _ => true
  | _ => false

end View

/-! ## Escaped texts -/

namespace StringLiteral

/-- The characters that stand behind the backslash of an escape. -/
def escapeLetters : List Char := ['\\', '"', 'n', 'r', 't']

theorem escapedChar_eq (c : Char) :
    escapedChar c = [c] ∨ ∃ letter ∈ escapeLetters, escapedChar c = ['\\', letter] := by
  unfold escapedChar
  split_ifs
  · exact .inr ⟨'\\', by decide, rfl⟩
  · exact .inr ⟨'"', by decide, rfl⟩
  · exact .inr ⟨'n', by decide, rfl⟩
  · exact .inr ⟨'r', by decide, rfl⟩
  · exact .inr ⟨'t', by decide, rfl⟩
  · exact .inl rfl

theorem prefix_of_prefix_escaped {start text : List Char} (noBackslash : '\\' ∉ start)
    (begins : start <+: escaped text) : start <+: text := by
  induction text generalizing start with
  | nil => exact begins
  | cons c text ih =>
      cases start with
      | nil => exact List.nil_prefix
      | cons first start =>
          rw [List.mem_cons, not_or] at noBackslash
          rw [escaped, List.flatMap_cons] at begins
          rcases escapedChar_eq c with isPlain | ⟨letter, -, isEscape⟩
          · rw [isPlain, List.singleton_append, List.cons_prefix_cons] at begins
            exact List.cons_prefix_cons.mpr ⟨begins.1, ih noBackslash.2 begins.2⟩
          · rw [isEscape, List.cons_append, List.cons_prefix_cons] at begins
            exact absurd begins.1.symm noBackslash.1

/-- Escaping does not bring up a text that has no backslash and does not begin like the second half
of an escape. -/
theorem infix_of_infix_escaped {first : Char} {sought : List Char}
    (noBackslash : '\\' ∉ first :: sought) (noLetter : first ∉ escapeLetters) {text : List Char}
    (isIn : first :: sought <:+: escaped text) : first :: sought <:+: text := by
  induction text with
  | nil => exact isIn
  | cons c text ih =>
      rw [List.infix_cons_iff]
      rcases escapedChar_eq c with isPlain | ⟨letter, isLetter, isEscape⟩
      · rw [escaped, List.flatMap_cons, isPlain, List.singleton_append,
          List.infix_cons_iff] at isIn
        refine isIn.imp (fun begins => ?_) ih
        refine prefix_of_prefix_escaped noBackslash ?_
        rwa [escaped, List.flatMap_cons, isPlain, List.singleton_append]
      · rw [escaped, List.flatMap_cons, isEscape, List.cons_append, List.singleton_append,
          List.infix_cons_iff, List.infix_cons_iff, List.cons_prefix_cons,
          List.cons_prefix_cons] at isIn
        rcases isIn with ⟨isBackslash, -⟩ | ⟨rfl, -⟩ | later
        · exact absurd (isBackslash ▸ List.mem_cons_self) noBackslash
        · exact absurd isLetter noLetter
        · exact .inr (ih later)

end StringLiteral

namespace Render.Macos

open StringLiteral (escaped toList_escape infix_of_infix_escaped)

/-- What a declaration of the content view begins with. -/
def contentViewMark : List Char :=
  ['s', 't', 'r', 'u', 'c', 't', ' ', 'C', 'o', 'n', 't', 'e', 'n', 't', 'V', 'i', 'e', 'w', ':']

/-- The number of declarations of the content view in a text. -/
def declarations (text : String) : Nat := occurrences contentViewMark text.toList

/-- A text with no declaration of the content view in it. -/
def IsSilent (text : String) : Prop := ¬ contentViewMark <:+: text.toList

instance : DecidablePred IsSilent := fun text =>
  inferInstanceAs (Decidable (¬ contentViewMark <:+: text.toList))

theorem declarations_eq_zero_iff (text : String) : declarations text = 0 ↔ IsSilent text :=
  occurrences_eq_zero_iff (by decide) text.toList

theorem declarations_append_of_endsApart {text : String}
    (apart : EndsApart contentViewMark text.toList) (rest : String) :
    declarations (text ++ rest) = declarations text + declarations rest := by
  rw [declarations, String.toList_append, occurrences_append_of_endsApart apart]
  rfl

theorem declarations_append_of_beginsApart {rest : String}
    (apart : BeginsApart contentViewMark rest.toList) (text : String) :
    declarations (text ++ rest) = declarations text + declarations rest := by
  rw [declarations, String.toList_append, occurrences_append_of_beginsApart apart]
  rfl

/-- Whatever stands between two pieces that are apart from it is counted on its own. -/
theorem declarations_between {before behind : String}
    (endsApart : EndsApart contentViewMark before.toList)
    (beginsApart : BeginsApart contentViewMark behind.toList) (text : String) :
    declarations (before ++ text ++ behind) =
      declarations before + declarations text + declarations behind := by
  rw [declarations_append_of_beginsApart beginsApart, declarations_append_of_endsApart endsApart]

theorem declarations_literal {text : String} (silent : IsSilent text) (escape : Bool) :
    declarations (style.literal escape text) = 0 := by
  rw [declarations_eq_zero_iff]
  cases escape with
  | false => exact silent
  | true =>
      intro isIn
      have literal : style.literal true text = StringLiteral.escape text := rfl
      rw [literal, toList_escape] at isIn
      exact silent (infix_of_infix_escaped (by decide) (by decide) isIn)

/-! ## Views -/

theorem declarations_label {content : String} (silent : IsSilent content) (escape : Bool) :
    declarations ((style escape).label content) = 0 := by
  have pieces : (style escape).label content =
      "Text(\"" ++ style.literal escape content ++ "\")" := rfl
  rw [pieces, declarations_between (by decide) (by decide), declarations_literal silent escape]
  decide

theorem declarations_field {title value : String} (titleSilent : IsSilent title)
    (valueSilent : IsSilent value) (escape : Bool) :
    declarations ((style escape).field title value) = 0 := by
  have pieces : (style escape).field title value =
      "TextField(\"" ++ style.literal escape title ++ ("\", text: " ++ value ++ ")") := by
    simp [style, String.append_assoc]
  have behind : BeginsApart contentViewMark ("\", text: " ++ value ++ ")").toList := by
    simp only [String.toList_append, String.reduceToList, List.cons_append]
    exact (by decide : '"' ∉ contentViewMark)
  rw [pieces, declarations_between (by decide) behind, declarations_between (by decide) (by decide),
    declarations_literal titleSilent escape, (declarations_eq_zero_iff value).mpr valueSilent]
  decide

/-- Between a separator that is apart from all texts, each text is counted on its own. -/
theorem declarations_intercalate {separator : String}
    (endsApart : EndsApart contentViewMark separator.toList)
    (beginsApart : BeginsApart contentViewMark separator.toList)
    (noMark : declarations separator = 0) (texts : List String) :
    declarations (separator.intercalate texts) = (texts.map declarations).sum := by
  induction texts with
  | nil => rfl
  | cons text texts ih =>
      cases texts with
      | nil => simp
      | cons next texts =>
          have behind : BeginsApart contentViewMark
              (separator ++ separator.intercalate (next :: texts)).toList := by
            rw [String.toList_append]
            cases isList : separator.toList with
            | nil =>
                rw [isList] at beginsApart
                cases beginsApart
            | cons c rest =>
                rw [isList] at beginsApart
                exact beginsApart
          rw [String.intercalate_cons_cons, String.append_assoc,
            declarations_append_of_beginsApart behind,
            declarations_append_of_endsApart endsApart, ih, noMark]
          simp

theorem declarations_describedView {text : String} {declared : List StateVariable}
    (textSilent : IsSilent text)
    (declaredSilent : ∀ line ∈ declared.map StateVariable.declaration, IsSilent line) :
    declarations (describedView text declared) = 1 := by
  let lines := declared.map fun declaration => declaration.declarationFor Platform.macos
  have noMarks : declarations ("\n    ".intercalate lines) = 0 := by
    rw [declarations_intercalate (by decide) (by decide) (by decide), List.map_map,
      List.sum_eq_zero_iff_forall_eq_nat]
    intro count member
    obtain ⟨declaration, isDeclared, rfl⟩ := List.mem_map.mp member
    exact (declarations_eq_zero_iff _).mpr
      (declaredSilent _ (List.mem_map_of_mem isDeclared))
  have behind : BeginsApart contentViewMark
      ("\n\n    var body: some View \x7b\n        " ++ text ++ "\n    \x7d\n\x7d").toList := by
    simp only [String.toList_append, String.reduceToList, List.cons_append]
    exact (by decide : '\n' ∉ contentViewMark)
  have pieces : describedView text declared = "struct ContentView: View \x7b\n    " ++
      "\n    ".intercalate lines ++
        ("\n\n    var body: some View \x7b\n        " ++ text ++ "\n    \x7d\n\x7d") := by
    delta describedView
    simp only [String.append_assoc, lines]
  rw [pieces, declarations_between (by decide +kernel) behind, noMarks,
    declarations_between (by decide +kernel) (by decide),
    (declarations_eq_zero_iff text).mpr textSilent]
  decide

mutual

/-- A rendering has the declarations of its descriptions and no others. -/
theorem declarations_render (escape : Bool) (store : Store) : ∀ view : View,
    (∀ text ∈ view.texts store, IsSilent text) →
      declarations (view.render (style escape) store) = view.descriptionCount
  | .label content, silent => declarations_label (silent content (by simp [View.texts])) escape
  | .field title binding, silent =>
      declarations_field (silent title (by simp [View.texts]))
        (silent (binding.read store) (by simp [View.texts])) escape
  | .stack children, silent => by
      have counted := declarations_renderAll escape store children silent
      have separated : declarations ("\n".intercalate
          (View.renderAll (style escape) store children)) =
            View.descriptionCountAll children := by
        rw [declarations_intercalate (by decide) (by decide) (by decide), counted]
      have pieces : (View.stack children).render (style escape) store = "VStack \x7b\n    " ++
          "\n".intercalate (View.renderAll (style escape) store children) ++ "\n\x7d" := by
        rw [View.render]
        rfl
      rw [pieces, declarations_between (by decide) (by decide), separated, View.descriptionCount]
      have noMarks : declarations "VStack \x7b\n    " = 0 ∧ declarations "\n\x7d" = 0 := by decide
      omega
  | .description text declared, silent => by
      rw [View.render, View.descriptionCount]
      exact declarations_describedView (silent text (by simp [View.texts]))
        fun line isDeclared => silent line (by simp [View.texts, List.mem_map.mp isDeclared])

theorem declarations_renderAll (escape : Bool) (store : Store) : ∀ views : List View,
    (∀ text ∈ View.textsAll store views, IsSilent text) →
      ((View.renderAll (style escape) store views).map declarations).sum =
        View.descriptionCountAll views
  | [], _ => rfl
  | view :: rest, silent => by
      rw [View.textsAll, List.forall_mem_append] at silent
      rw [View.renderAll, List.map_cons, List.sum_cons, View.descriptionCountAll,
        declarations_render escape store view silent.1,
        declarations_renderAll escape store rest silent.2]

end

/-! ## Documents -/

/-- What stands behind the name of the application's type. -/
def afterTypeName : String :=
  " App \x7b\n    var body: some Scene \x7b\n        WindowGroup \x7b\n" ++
    "            ContentView()\n        \x7d\n    \x7d\n\x7d\n"

/-- What stands behind the declaration that a document is made of. -/
def applicationEnd (appName : String) : String :=
  "\n\n@main\nstruct " ++ TypeName.ofName appName ++ "App:" ++ afterTypeName

theorem colon_notMem_typeName (appName : String) : ':' ∉ (TypeName.ofName appName).toList := by
  rw [TypeName.ofName, String.toList_ofList]
  intro member
  have noColon : Text.isNameChar ':' = false ∧ ':' ≠ ' ' ∧ Text.isExtending ':' = false := by
    decide +kernel
  rcases TypeName.mem_identifier member with isName | isSpace | isMark
  · simp [noColon.1] at isName
  · exact noColon.2.1 isSpace
  · simp [noColon.2.2] at isMark

/-- Before its colon the type of the application ends in letters that the content view does not end
in, whatever the name of the application is. -/
theorem declarations_applicationEnd (appName : String) :
    declarations (applicationEnd appName) = 0 := by
  let named := "\n\n@main\nstruct ".toList ++ (TypeName.ofName appName).toList ++ ['A', 'p', 'p']
  have pieces : (applicationEnd appName).toList = named ++ ':' :: afterTypeName.toList := by
    delta applicationEnd
    simp [named]
  have noColon : ':' ∉ named := by
    simp [named, colon_notMem_typeName]
  have other : ¬ contentViewMark.dropLast <:+ named := by
    intro isEnd
    rcases List.suffix_or_suffix_of_suffix isEnd (List.suffix_append _ ['A', 'p', 'p']) with
      inApp | aroundApp
    · exact absurd inApp (by decide)
    · exact absurd aroundApp (by decide)
  rw [declarations, pieces, show contentViewMark = contentViewMark.dropLast ++ [':'] from rfl,
    occurrences_append_last (by decide) noColon other]
  decide

theorem declarations_application (appName declaration : String) :
    declarations (application appName declaration) = declarations declaration := by
  have pieces : application appName declaration =
      "import SwiftUI\n\n" ++ declaration ++ applicationEnd appName := by
    rw [← String.toList_inj]
    delta application applicationEnd afterTypeName
    simp only [String.toList_append, String.reduceToList, List.append_assoc, List.cons_append,
      List.nil_append]
  have behind : BeginsApart contentViewMark (applicationEnd appName).toList := by
    delta applicationEnd
    simp only [String.toList_append, String.reduceToList, List.cons_append]
    exact (by decide : '\n' ∉ contentViewMark)
  have noMark : declarations "import SwiftUI\n\n" = 0 := by decide
  rw [pieces, declarations_between (by decide) behind, declarations_applicationEnd, noMark]
  omega

theorem declarations_contentView (fragment : String) :
    declarations (contentView fragment) = declarations fragment + 1 := by
  have marks :
      declarations "struct ContentView: View \x7b\n    var body: some View \x7b\n        " = 1 ∧
        declarations "\n    \x7d\n\x7d" = 0 := by
    decide +kernel
  have pieces : contentView fragment =
      "struct ContentView: View \x7b\n    var body: some View \x7b\n        " ++ fragment ++
        "\n    \x7d\n\x7d" := rfl
  rw [pieces, declarations_between (by decide +kernel) (by decide)]
  omega

/-- A document for a tree whose texts declare no content view has the declarations of the
descriptions in the tree, and one more unless the tree is a description itself. So it declares the
content view once exactly if the tree is a description or has none. -/
theorem page_declares_content_view_iff (escape : Bool) (store : Store) (appName : String)
    (view : View) (silent : ∀ text ∈ view.texts store, IsSilent text) :
    declarations (view.renderPage (style escape) store appName) =
        view.descriptionCount + (if view.isDescription then 0 else 1) ∧
      (declarations (view.renderPage (style escape) store appName) = 1 ↔
        view.isDescription ∨ view.descriptionCount = 0) := by
  have counted : declarations (view.renderPage (style escape) store appName) =
      view.descriptionCount + (if view.isDescription then 0 else 1) := by
    rw [← declarations_render escape store view silent]
    cases view with
    | description text declared => exact declarations_application appName _
    | label | field | stack =>
        exact (declarations_application appName _).trans (declarations_contentView _)
  refine ⟨counted, ?_⟩
  rw [counted]
  cases view <;> simp [View.isDescription, View.descriptionCount]

theorem page_declares_content_view_of_described_form :
    let form := View.stack [.field "struct ContentView" (.cell ⟨0⟩),
      .stack [.description "Text(title)" [⟨"@State var title", false, "title", "Any", none⟩]]]
    (∀ text ∈ form.texts ⟨["a: View"], []⟩, IsSilent text) ∧
      declarations (form.renderPage (style true) ⟨["a: View"], []⟩ "App") = 2 :=
  have silent : ∀ text ∈ View.texts ⟨["a: View"], []⟩ (.stack [.field "struct ContentView"
      (.cell ⟨0⟩), .stack [.description "Text(title)"
        [⟨"@State var title", false, "title", "Any", none⟩]]]), IsSilent text := by
    decide +kernel
  ⟨silent, (page_declares_content_view_iff true _ "App" _ silent).1⟩

/-- Below another view a description keeps the declaration of its own. -/
theorem page_can_declare_content_view_twice :
    (∀ text ∈ (View.stack [.description "x" []]).texts .empty, IsSilent text) ∧
      declarations ((View.stack [.description "x" []]).renderPage (style true) .empty "App") = 2 := by
  have silent : ∀ text ∈ (View.stack [.description "x" []]).texts .empty, IsSilent text := by decide
  refine ⟨silent, ?_⟩
  have drawn := declarations_render true .empty _ silent
  exact (declarations_application "App" _).trans
    ((declarations_contentView _).trans (congrArg (· + 1) drawn))

end Render.Macos

end Polyview
