import Polyview.Proofs.Project.Generation

/-!
# What the boilerplate of a project says

The text of a boilerplate template is cut into characters and into places for the name of the
application, without a look at the rules of templates. Every generated boilerplate file is its
template with an image of the name in each of these places and with all other characters as they
are. Whatever the name looks like, it is put in once and not read again.
-/

namespace Polyview.Boilerplate

open Template (Conversion)

/-- A place for the name of the application, as templates write it behind a word. -/
def placeholder (word : List Char) : List Char :=
  '{' :: '{' :: (word ++ ['a', 'p', 'p', '_', 'n', 'a', 'm', 'e', '}', '}'])

/-- The places that templates have, with what is done to the name there. -/
def placeholders : List (List Char × Option Conversion) :=
  [(placeholder [], none), (placeholder ['x', 'm', 'l', ' '], some .markup),
    (placeholder ['t', 'y', 'p', 'e', '_', 'n', 'a', 'm', 'e', ' '], some .typeName),
    (placeholder ['s', 'n', 'a', 'k', 'e', '_', 'c', 'a', 's', 'e', ' '], some .snakeCase)]

/-- A part of a template's text. -/
inductive Symbol where
  | character (c : Char)
  /-- A place for the name of the application, as it is or converted. -/
  | name (conversion : Option Conversion)
  deriving DecidableEq

/-- The symbols of a text whose first `read` characters belong to a place that has been read. -/
def symbolsFrom (read : Nat) : List Char → List Symbol
  | [] => []
  | c :: rest =>
      match read with
      | read + 1 => symbolsFrom read rest
      | 0 =>
          match placeholders.find? (fun placeholder => placeholder.1.isPrefixOf (c :: rest)) with
          | some (written, conversion) =>
              .name conversion :: symbolsFrom (written.length - 1) rest
          | none => .character c :: symbolsFrom 0 rest

/-- What stands in a file where a symbol stands in its template. -/
def Symbol.image (appName : String) : Symbol → List Char
  | .character c => [c]
  | .name none => appName.toList
  | .name (some .markup) => (Markup.attributeText appName).toList
  | .name (some .typeName) => (TypeName.ofName appName).toList
  | .name (some .snakeCase) => Text.snakeCase appName.toList
  | .name (some .quotation) => (TomlString.quote appName).toList

/-- The text of a template with the images of a name in place of its placeholders. -/
def substituted (appName text : String) : String :=
  String.ofList ((symbolsFrom 0 text.toList).flatMap (Symbol.image appName))

/-! ## The pieces of the templates -/

def Piece.symbols : Piece → List Symbol
  | .fixed text => text.toList.map Symbol.character
  | .name conversion => [.name conversion]

/-- The helpers of templates give the images that a name has in the files. -/
theorem toList_apply (rule : Conversion) (appName : String) :
    (rule.apply appName).toList = (Symbol.name (some rule)).image appName := by
  cases rule with
  | snakeCase => exact String.toList_ofList
  | typeName | markup | quotation => rfl

theorem Piece.toList_filled (appName : String) (piece : Piece) :
    (piece.filled appName).toList = piece.symbols.flatMap (Symbol.image appName) := by
  cases piece with
  | fixed text => simp [filled, symbols, List.flatMap_map, Symbol.image]
  | name conversion =>
      rw [symbols, List.flatMap_singleton]
      cases conversion with
      | none => rfl
      | some rule => exact toList_apply rule appName

theorem toList_filled (appName : String) (kind : Boilerplate) :
    (kind.filled appName).toList =
      (kind.pieces.flatMap Piece.symbols).flatMap (Symbol.image appName) := by
  rw [filled]
  induction kind.pieces with
  | nil => rfl
  | cons piece pieces ih =>
      rw [List.map_cons, String.join_cons, String.toList_append, ih, Piece.toList_filled,
        List.flatMap_cons, List.flatMap_append]

/-- The symbols that a token of a template stands for, unless it asks for anything but the name. -/
def symbolsOf? : Template.Token → Option (List Symbol)
  | .text text => some (text.map Symbol.character)
  | .tag tag =>
      match tag.marked.tag with
      | .output head => (pieceOf? (.output tag.place head)).map Piece.symbols
      | .helper call => (pieceOf? (.helper tag.place call)).map Piece.symbols
      | _ => none

/-- A token with symbols is an element with the same symbols, wherever it stands. -/
theorem elementsOf_cons {token : Template.Token} {symbols : List Symbol}
    (hasSymbols : symbolsOf? token = some symbols) :
    ∃ element piece, pieceOf? element = some piece ∧ piece.symbols = symbols ∧
      ∀ known tokens, Template.elementsOf [] known (token :: tokens) =
        Template.elementsOf [] (element :: known) tokens := by
  cases token with
  | text text =>
      obtain rfl := Option.some.inj hasSymbols
      exact ⟨.text (String.ofList text), .fixed _, rfl, by simp [Piece.symbols], fun _ _ => rfl⟩
  | tag tag =>
      rw [symbolsOf?] at hasSymbols
      split at hasSymbols
      next head isOutput =>
        obtain ⟨piece, isPiece, isSymbols⟩ := Option.map_eq_some_iff.mp hasSymbols
        exact ⟨_, piece, isPiece, isSymbols, fun _ _ => by simp [Template.elementsOf, isOutput]⟩
      next call isHelper =>
        obtain ⟨piece, isPiece, isSymbols⟩ := Option.map_eq_some_iff.mp hasSymbols
        exact ⟨_, piece, isPiece, isSymbols, fun _ _ => by simp [Template.elementsOf, isHelper]⟩
      next => cases hasSymbols

theorem elementsOf_of_symbols {tokens : List Template.Token} {symbols : List (List Symbol)}
    (haveSymbols : tokens.mapM symbolsOf? = some symbols) (known : List Template.Element) :
    ∃ elements pieces, Template.elementsOf [] known tokens = some (known.reverse ++ elements) ∧
      elements.mapM pieceOf? = some pieces ∧ pieces.flatMap Piece.symbols = symbols.flatten := by
  induction tokens generalizing symbols known with
  | nil =>
      obtain rfl := Option.some.inj haveSymbols
      exact ⟨[], [], by simp [Template.elementsOf], rfl, rfl⟩
  | cons token tokens ih =>
      rw [List.mapM_cons, Option.bind_eq_bind, Option.bind_eq_some_iff] at haveSymbols
      obtain ⟨first, hasSymbols, rest⟩ := haveSymbols
      rw [Option.bind_eq_bind, Option.bind_eq_some_iff] at rest
      obtain ⟨later, haveSymbols, isList⟩ := rest
      obtain rfl := Option.some.inj isList
      obtain ⟨element, piece, isPiece, isSymbols, isRead⟩ := elementsOf_cons hasSymbols
      obtain ⟨elements, pieces, areRead, arePieces, areSymbols⟩ :=
        ih haveSymbols (element :: known)
      refine ⟨element :: elements, piece :: pieces, ?_, ?_, ?_⟩
      · rw [isRead, areRead, List.reverse_cons, List.append_assoc, List.singleton_append]
      · simp [isPiece, arePieces]
      · rw [List.flatMap_cons, isSymbols, areSymbols, List.flatten_cons]

/-- The symbols of a text that is read as a template. -/
def readSymbols? (text : List Char) : Option (List (List Symbol)) := do
  let tokens ← Template.tokens? text
  (Template.trimTokens false false tokens).mapM symbolsOf?

set_option maxRecDepth 20000 in
/-- Tokens are compared and not elements, whose texts the kernel would have to encode. -/
theorem readSymbols?_text (kind : Boilerplate) :
    (readSymbols? kind.text.toList).map List.flatten = some (symbolsFrom 0 kind.text.toList) := by
  have isCut : (fun text => decide ((readSymbols? text).map List.flatten =
      some (symbolsFrom 0 text))) kind.text.toList := by
    cases kind <;>
      (simp only [text, lines, List.map_cons, List.map_nil, String.join_cons, String.join_nil,
        String.toList_append]
       repeat rw [String.toList_ofList]
       decide +kernel)
  exact of_decide_eq_true isCut

/-- Reading a template as a template finds the same places for the name. -/
theorem symbols_pieces (kind : Boilerplate) :
    kind.pieces.flatMap Piece.symbols = symbolsFrom 0 kind.text.toList := by
  obtain ⟨symbols, isRead, isCut⟩ := Option.map_eq_some_iff.mp kind.readSymbols?_text
  rw [readSymbols?, Option.bind_eq_bind, Option.bind_eq_some_iff] at isRead
  obtain ⟨tokens, areTokens, haveSymbols⟩ := isRead
  obtain ⟨elements, pieces, areElements, arePieces, areSymbols⟩ :=
    elementsOf_of_symbols haveSymbols []
  have isTemplate : Template.ofText? kind.text = some elements := by
    rw [Template.ofText?, areTokens]
    exact areElements
  obtain rfl := Option.some.inj (isTemplate.symm.trans kind.ofText?_text)
  obtain rfl := Option.some.inj (arePieces.symm.trans kind.mapM_pieceOf?_elements)
  rw [areSymbols, isCut]

theorem filled_eq_substituted (appName : String) (kind : Boilerplate) :
    kind.filled appName = substituted appName kind.text := by
  rw [substituted, ← symbols_pieces, ← toList_filled, String.ofList_toList]

/-- Every template can be registered, a project can be generated for every name of an application,
and each of its boilerplate files is the text of its template with the images of the name in place
of the placeholders. -/
theorem boilerplate_substitutes_name (interface : Interface) (platform : Platform) :
    ∃ library, library? = some library ∧
      interface.project platform = .ok ⟨interface.file platform ::
        (platform.boilerplate interface.appName).map fun (fileName, kind) =>
          ⟨platform.projectFolder ++ "/" ++ fileName,
            substituted interface.appName kind.text, true⟩⟩ := by
  refine ⟨_, library?_eq, ?_⟩
  rw [interface.project_eq_ok, Interface.files]
  simp only [filled_eq_substituted]

example : substituted "\x7b\x7bname\x7d\x7d & Co" "// \x7b \x7b\x7bapp_name\x7d\x7d \x7d\n" =
    "// \x7b \x7b\x7bname\x7d\x7d & Co \x7d\n" := by
  decide +kernel

end Polyview.Boilerplate
