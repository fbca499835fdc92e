import Polyview.Proofs.Markup.Document
import Polyview.Proofs.Project.Layout

/-!
# The property list of an application

The property list of a macOS project is a document with the name of the application as the
characters of its only string. The name is written as for an attribute, where a brace at its
beginning has a guard, and between tags nothing takes this guard away.
-/

namespace Polyview.Boilerplate

open Markup

/-! ## The written list -/

/-- The declaration of a property list. -/
def declaration : String := "<?xml version=\"1.0\" encoding=\"UTF-8\"?>"

/-- The document type of a property list. -/
def documentType : String :=
  "<!DOCTYPE plist PUBLIC \"-//Apple//DTD PLIST 1.0//EN\" " ++
    "\"http://www.apple.com/DTDs/PropertyList-1.0.dtd\">"

/-- What a property list has before the text of its string. -/
def beforeString : String :=
  declaration ++ "\n" ++ documentType ++ "\n<plist version=\"1.0\">\n" ++
    "<dict>\n    <key>CFBundleName</key>\n    <string>"

def afterString : String := "</string>\n</dict>\n</plist>\n"

set_option maxRecDepth 20000 in
theorem pieces_bundleInformation :
    pieces .bundleInformation =
      [.fixed beforeString, .name (some .markup), .fixed afterString] := by
  have read : (Template.ofText? (text .bundleInformation)).bind
      (fun elements => elements.mapM pieceOf?) =
        some [.fixed beforeString, .name (some .markup), .fixed afterString] := by
    simp only [Template.ofText?, text, lines, List.map_cons, List.map_nil, String.join_cons,
      String.join_nil, String.toList_append]
    repeat rw [String.toList_ofList]
    decide
  rw [ofText?_text, Option.bind_some, mapM_pieceOf?_elements] at read
  exact Option.some.inj read

theorem filled_bundleInformation (appName : String) :
    filled appName .bundleInformation = beforeString ++ (attributeText appName ++ afterString) := by
  rw [filled, pieces_bundleInformation]
  simp [Piece.filled, Template.Conversion.apply]

/-- The content of the dictionary, with a text between the tags of the string. -/
def writtenDictionary (spelled : List Char) : List Char :=
  entities ['\n', ' ', ' ', ' ', ' '] ++
    (writtenElement "key" (entities "CFBundleName".toList) ++
      (entities ['\n', ' ', ' ', ' ', ' '] ++ (writtenElement "string" spelled ++ entities ['\n'])))

/-- The content of the whole list. -/
def writtenContent (spelled : List Char) : List Char :=
  entities ['\n'] ++ (writtenElement "dict" (writtenDictionary spelled) ++ entities ['\n'])

theorem written_list (spelled : List Char) :
    beforeString.toList ++ (spelled ++ afterString.toList) =
      declaration.toList ++ ('\n' :: (documentType.toList ++ ('\n' :: '<' :: ("plist".toList ++
        (writtenAttribute "version" "1.0".toList ++ '>' :: (writtenContent spelled ++
          '<' :: '/' :: ("plist".toList ++ '>' :: ['\n']))))))) := by
  have space : entities ['\n', ' ', ' ', ' ', ' '] = ['\n', ' ', ' ', ' ', ' '] := rfl
  have lineFeed : entities ['\n'] = ['\n'] := rfl
  simp only [beforeString, afterString, writtenContent, writtenDictionary, space, lineFeed,
    writtenElement, writtenAttribute, String.toList_append, String.reduceToList, List.append_assoc,
    List.cons_append, List.nil_append]
  rfl

/-! ## The list as a document -/

/-- A property list whose string has given characters. -/
def propertyList (characters : String) : Item :=
  .element "plist" [("version", "1.0")]
    [.text "\n",
      .element "dict" []
        [.text "\n    ", .element "key" [] [.text "CFBundleName"], .text "\n    ",
          .element "string" [] [.text characters], .text "\n"],
      .text "\n"]

theorem isContent_writtenContent (characters : List Char) :
    ∃ content, propertyList (String.ofList characters) =
        .element "plist" [("version", "1.0")] content ∧
      IsContent 6 (writtenContent (entities characters)) content := by
  have lineFeed := isContent_text ['\n']
  have string := (isContent_text characters).element lineFeed
    (show isName "string".toList = true by decide) ['\n', ' ', ' ', ' ', ' ']
  have dictionary := (isContent_text "CFBundleName".toList).element string
    (show isName "key".toList = true by decide) ['\n', ' ', ' ', ' ', ' ']
  have whole := dictionary.element lineFeed (show isName "dict".toList = true by decide) ['\n']
  refine ⟨_, rfl, ?_⟩
  simpa [writtenContent, writtenDictionary] using whole

theorem all_isLineChar_fixed :
    beforeString.toList.all isLineChar = true ∧ afterString.toList.all isLineChar = true := by
  -- The texts become lists of characters first, which is much faster than to decide about texts.
  unfold beforeString declaration documentType afterString
  simp only [String.toList_append]
  repeat rw [String.toList_ofList]
  decide

theorem declaration_begins : "<?xml ".toList <+: declaration.toList := by
  decide

theorem declaration_ends : afterBracket none declaration.toList = some [] := by
  decide

theorem documentType_begins : "<!DOCTYPE ".toList <+: documentType.toList := by
  unfold documentType
  rw [String.toList_append]
  repeat rw [String.toList_ofList]
  decide

theorem documentType_ends : afterBracket none documentType.toList = some [] := by
  unfold documentType
  rw [String.toList_append]
  repeat rw [String.toList_ofList]
  decide

theorem skipSpaces_documentType (rest : List Char) :
    skipSpaces ('\n' :: (documentType.toList ++ rest)) = documentType.toList ++ rest := by
  obtain ⟨behind, begins⟩ := documentType_begins
  rw [← begins, String.toList_ofList]
  rfl

/-- The start tag of a list. -/
theorem readTag_plist (rest : List Char) :
    readTag ('<' :: ("plist".toList ++ (writtenAttribute "version" "1.0".toList ++ '>' :: rest))) =
      some ("plist", [("version", "1.0")], false, rest) := by
  have version (fuel : Nat) := readAttributes_append
    (show isName "version".toList = true by decide)
    (show Decodes '"' "1.0".toList "1.0".toList from .ofLiteral (by decide)) fuel ('>' :: rest)
  rw [writtenAttribute, List.cons_append] at version
  rw [writtenAttribute, List.cons_append, readTag_append (by decide) (by decide), version,
    readAttributes_open]
  rfl

/-- A list is read as a document, whatever the characters of its string are. -/
theorem document?_list {characters : List Char} (areLineChars : characters.all isLineChar = true) :
    document? (beforeString.toList ++ (entities characters ++ afterString.toList)) =
      some (propertyList (String.ofList characters)) := by
  have written : (beforeString.toList ++ (entities characters ++ afterString.toList)).all
      isLineChar = true := by
    rw [List.all_append, List.all_append, all_isLineChar_fixed.1, all_isLineChar_fixed.2,
      all_entities (by decide) areLineChars]
    rfl
  obtain ⟨areAllowed, noReturns⟩ := (all_isLineChar_iff _).mp written
  obtain ⟨content, isList, isContent⟩ := isContent_writtenContent characters
  rw [written_list] at areAllowed noReturns ⊢
  have skipLineFeed (rest : List Char) : skipSpaces ('\n' :: '<' :: rest) = '<' :: rest := rfl
  rw [document?, if_pos areAllowed, withLineFeeds_of_notMem noReturns,
    afterOptional_append declaration_begins declaration_ends]
  simp only [Option.bind_eq_bind, Option.bind_some, skipSpaces_documentType,
    afterOptional_append documentType_begins documentType_ends, skipLineFeed]
  rw [isContent.readItem (by decide) (readTag_plist _) (by simp), isList]
  rfl

theorem document?_filled {appName : String} (allowed : appName.toList.all isDocumentChar = true)
    (noReturn : '\r' ∉ appName.toList) :
    document? (filled appName .bundleInformation).toList =
      some (propertyList (String.ofList (Markup.guard appName.toList ++ appName.toList))) := by
  have areLineChars : (Markup.guard appName.toList ++ appName.toList).all isLineChar = true := by
    rw [List.all_append, all_guard (by decide), (all_isLineChar_iff _).mpr ⟨allowed, noReturn⟩]
    rfl
  have read := document?_list areLineChars
  rwa [filled_bundleInformation, String.toList_append, String.toList_append, toList_attributeText]

theorem named_propertyList (characters : String) :
    (propertyList characters).named "string" = [.element "string" [] [.text characters]] := by
  simp [propertyList, Item.named, Item.namedAll]

theorem characters_string (characters : String) :
    (Item.element "string" [] [.text characters]).characters = characters := by
  simp [Item.characters]

/-- A name has no guard exactly if it does not begin with a brace. -/
theorem guard_append_eq_self_iff (name : List Char) :
    Markup.guard name ++ name = name ↔ name.head? ≠ some '\x7b' := by
  unfold Markup.guard
  split
  next isBrace =>
    refine iff_of_false (fun same => ?_) (not_not_intro isBrace)
    have sameLength := congrArg List.length same
    simp only [List.length_append, List.length_cons, List.length_nil] at sameLength
    omega
  next notBrace => exact iff_of_true rfl notBrace

end Polyview.Boilerplate

namespace Polyview

open Markup

/-! ## The list in a project -/

/-- The file of a project for macOS that holds the property list. -/
def propertyListFile (appName : String) : GeneratedFile where
  path := "Build/macOS/Info.plist"
  content := Boilerplate.filled appName .bundleInformation
  isBoilerplate := true

theorem document?_propertyListFile {appName : String}
    (allowed : appName.toList.all isDocumentChar = true) (noReturn : '\r' ∉ appName.toList) :
    document? (propertyListFile appName).content.toList = some (Boilerplate.propertyList
      (String.ofList (Markup.guard appName.toList ++ appName.toList))) := by
  simpa only [propertyListFile] using Boilerplate.document?_filled allowed noReturn

theorem Interface.file?_propertyList (interface : Interface) :
    (Project.mk (interface.files .macos)).file? "Build/macOS/Info.plist" =
      some (propertyListFile interface.appName) := by
  have isThird : (interface.files .macos)[2]? = some (propertyListFile interface.appName) := rfl
  exact file?_eq_some isThird

/-- The property list of a project for macOS can always be read, and has one string. Its characters
are the name of the application with the guard that an attribute would need, and so they are the
name exactly if it does not begin with a brace. -/
theorem bundle_name_is_app_name_iff (interface : Interface)
    (allowed : interface.appName.toList.all isDocumentChar = true)
    (noReturn : '\r' ∉ interface.appName.toList) :
    ∃ project file document found,
      interface.project .macos = .ok project ∧
      project.file? "Build/macOS/Info.plist" = some file ∧
      document? file.content.toList = some document ∧
      document.named "string" = [found] ∧
      found.characters =
        String.ofList (Markup.guard interface.appName.toList ++ interface.appName.toList) ∧
      (found.characters = interface.appName ↔
        interface.appName.toList.head? ≠ some '\x7b') := by
  refine ⟨_, _, _, _, interface.project_eq_ok .macos, interface.file?_propertyList,
    document?_propertyListFile allowed noReturn, Boilerplate.named_propertyList _,
    Boilerplate.characters_string _, ?_⟩
  rw [Boilerplate.characters_string, ← Boilerplate.guard_append_eq_self_iff,
    ← String.toList_inj, String.toList_ofList]

/-- An interface for an application with a given name. -/
def interfaceNamed (appName : String) : Interface := ⟨appName, .label "Hello", .empty, true⟩

/-- A name that looks like markup, like an entity and like a place of a template. -/
theorem bundle_name_is_app_name_of_markup :
    ("</string> &amp; \x7b\x7bxml app_name\x7d\x7d" : String).toList.all isDocumentChar = true ∧
    '\r' ∉ ("</string> &amp; \x7b\x7bxml app_name\x7d\x7d" : String).toList ∧
    ∃ project file document found,
      (interfaceNamed "</string> &amp; \x7b\x7bxml app_name\x7d\x7d").project .macos =
        .ok project ∧
      project.file? "Build/macOS/Info.plist" = some file ∧
      document? file.content.toList = some document ∧
      document.named "string" = [found] ∧
      found.characters = "</string> &amp; \x7b\x7bxml app_name\x7d\x7d" := by
  have allowed : ("</string> &amp; \x7b\x7bxml app_name\x7d\x7d" : String).toList.all
      isDocumentChar = true := by
    decide
  have noReturn : '\r' ∉ ("</string> &amp; \x7b\x7bxml app_name\x7d\x7d" : String).toList := by
    decide
  obtain ⟨project, file, document, found, isProject, isFile, isDocument, isString, -, isName⟩ :=
    bundle_name_is_app_name_iff (interfaceNamed "</string> &amp; \x7b\x7bxml app_name\x7d\x7d")
      allowed noReturn
  exact ⟨allowed, noReturn, project, file, document, found, isProject, isFile, isDocument, isString,
    isName.mpr (by decide)⟩

/-- The guard before a name in braces becomes a part of it. -/
theorem bundle_name_can_gain_guard :
    ∃ project file document found,
      (interfaceNamed "\x7bApp\x7d").project .macos = .ok project ∧
      project.file? "Build/macOS/Info.plist" = some file ∧
      document? file.content.toList = some document ∧
      document.named "string" = [found] ∧
      found.characters = "\x7b\x7d\x7bApp\x7d" := by
  exact ⟨_, _, _, _, Interface.project_eq_ok _ .macos, Interface.file?_propertyList _,
    document?_propertyListFile (by decide) (by decide), Boilerplate.named_propertyList _,
    Boilerplate.characters_string _⟩

end Polyview
