import Polyview.Manifest
import Polyview.Proofs.Template.Filling
import Polyview.Proofs.Toml.Reading

/-!
# The manifest of a new project

What the template of a manifest puts out, and what is read from it again.
-/

namespace Polyview

open TomlString (quote)
open Toml (IsBare Lines Progress header listed pair)
open Template (Element fillAll_cons fill_text fill_conversion fill_each fill_item fill_unlessLast)

namespace Starter

/-! ## Writing -/

def platformElements : List Element :=
  [.text "\"", .output ⟨7, 34⟩ (.reference (.path false 0 [] "this")), .text "\"",
    .block (some ⟨7, 43⟩) (.mk "unless" [.reference (.variable 0 "last" "@last")] []) .none
      [.text ", "] none]

/-- The template of a manifest, part by part. -/
def manifestElements : List Element :=
  [.text "[project]\nname = ",
    .helper ⟨2, 8⟩ (.mk "toml_string" [.reference (.path false 0 ["name"] "name")] []),
    .text "\nentry = ",
    .helper ⟨3, 9⟩ (.mk "toml_string" [.reference (.path false 0 ["entry"] "entry")] []),
    .text "\n\n[build]\noutput_dir = \".\"\nplatforms = [",
    .block (some ⟨7, 14⟩)
      (.mk "each" [.reference (.path false 0 ["platforms"] "platforms")] []) .none
      platformElements none,
    .text "]\nescape = false\n"]

set_option maxRecDepth 20000 in
theorem ofText?_manifestTemplate :
    Template.ofText? manifestTemplate = some manifestElements := by
  -- The text becomes a list of characters line by line, which is much faster than as a whole.
  simp only [Template.ofText?, manifestTemplate, List.map_cons, List.map_nil, String.join_cons,
    String.join_nil, String.toList_append]
  repeat rw [String.toList_ofList]
  rfl

/-- A platform in the list of a manifest, with the comma before the next one. -/
def platformText (count : Nat) : Json.Value × Nat → String
  | (value, position) =>
      "\"" ++ (Template.shown value ++ ("\"" ++
        ((if position + 1 = count then "" else ", ") ++ "")))

def manifestMembers (name : String) (platforms : List Platform) : List (String × Json.Value) :=
  [("entry", .text defaultEntry), ("name", .text name),
    ("platforms", .list (platforms.map fun platform => .text platform.name))]

def platformsText (platforms : List Platform) : String :=
  let values := platforms.map fun platform => Json.Value.text platform.name
  String.join (values.zipIdx.map (platformText values.length))

theorem fill_platforms {nested : String → Template.Setting → Except Template.Failure String}
    (name : String) (platforms : List Platform) (place : Option Template.Place) :
    Template.fill nested (.start (.object (manifestMembers name platforms)))
      (.block place (.mk "each" [.reference (.path false 0 ["platforms"] "platforms")] []) .none
        platformElements none) = .ok (platformsText platforms) := by
  have isMember : (manifestMembers name platforms).lookup "platforms" =
      some (.list (platforms.map fun platform => .text platform.name)) := rfl
  apply fill_each isMember
  intro item position isItem
  apply fillAll_cons (fill_text rfl _)
  apply fillAll_cons (fill_item isMember isItem _)
  apply fillAll_cons (fill_text rfl _)
  exact fillAll_cons (fill_unlessLast _ _ _ _ _) rfl

/-- The text of a manifest, as the parts of its template put it out. -/
def manifestText (name : String) (platforms : List Platform) : String :=
  "[project]\nname = " ++ (quote name ++ ("\nentry = " ++ (quote defaultEntry ++
    ("\n\n[build]\noutput_dir = \".\"\nplatforms = [" ++ (platformsText platforms ++
      ("]\nescape = false\n" ++ ""))))))

theorem fillIn_manifestElements (name : String) (platforms : List Platform) :
    Template.Library.empty.fillIn manifestElements (manifestData name platforms) =
      .ok (manifestText name platforms) := by
  have nameMember : (manifestMembers name platforms).lookup "name" = some (.text name) := rfl
  have entryMember : (manifestMembers name platforms).lookup "entry" =
      some (.text defaultEntry) := rfl
  have isQuotation : Template.helper? "toml_string" = some (.conversion .quotation) := by rfl
  have isOutermost := Template.Setting.isOutermost_start (manifestMembers name platforms)
  unfold manifestText manifestElements Template.Library.fillIn
  apply fillAll_cons (fill_text rfl _)
  apply fillAll_cons (fill_conversion isOutermost isQuotation nameMember _ _)
  apply fillAll_cons (fill_text rfl _)
  apply fillAll_cons (fill_conversion isOutermost isQuotation entryMember _ _)
  apply fillAll_cons (fill_text rfl _)
  apply fillAll_cons (fill_platforms name platforms _)
  exact fillAll_cons (fill_text rfl _) rfl

theorem manifest_eq_ok (name : String) (platforms : List Platform) :
    manifest name platforms = .ok (manifestText name platforms) := by
  unfold manifest
  rw [ofText?_manifestTemplate]
  dsimp only
  rw [fillIn_manifestElements, mapError_ok]

/-! ## The lines -/

theorem toList_shown_text (text : String) : (Template.shown (.text text)).toList = text.toList := by
  simp [Template.shown, Template.shownChars]

/-- The name of a platform has no character that a quoted string would escape. -/
theorem toList_quote_name (platform : Platform) :
    (quote platform.name).toList = '"' :: (platform.name.toList ++ ['"']) := by
  cases platform <;> rfl

theorem toList_platformText (platform : Platform) (count position : Nat) :
    (platformText count (.text platform.name, position)).toList =
      (quote platform.name).toList ++ if position + 1 = count then [] else [',', ' '] := by
  by_cases isLast : position + 1 = count <;>
    simp [platformText, toList_shown_text, toList_quote_name, isLast]

/-- The block of the template places a comma after every platform but the last. -/
theorem toList_join_platformText (platforms : List Platform) (start : Nat) :
    (String.join (((platforms.map fun platform => Json.Value.text platform.name).zipIdx start).map
      (platformText (start + platforms.length)))).toList =
        Toml.listed (platforms.map Platform.name) := by
  induction platforms generalizing start with
  | nil => rfl
  | cons platform rest ih =>
      have later := ih (start + 1)
      have count : start + (platform :: rest).length = start + 1 + rest.length := by
        simp only [List.length_cons]
        omega
      rw [List.map_cons, List.zipIdx_cons, List.map_cons, String.join_cons, String.toList_append,
        count, later, toList_platformText]
      cases rest with
      | nil => simp [Toml.listed]
      | cons next others => simp [Toml.listed]

theorem toList_platformsText (platforms : List Platform) :
    (platformsText platforms).toList = Toml.listed (platforms.map Platform.name) := by
  simpa [platformsText] using toList_join_platformText platforms 0

/-- The text of a manifest, line by line. -/
theorem toList_manifestText (name : String) (platforms : List Platform) :
    (manifestText name platforms).toList =
      header ['p', 'r', 'o', 'j', 'e', 'c', 't'] ++
        (pair ['n', 'a', 'm', 'e'] (quote name).toList ++
        (pair ['e', 'n', 't', 'r', 'y'] (quote defaultEntry).toList ++
        ('\n' :: (header ['b', 'u', 'i', 'l', 'd'] ++
        (pair ['o', 'u', 't', 'p', 'u', 't', '_', 'd', 'i', 'r'] (quote ".").toList ++
        (pair ['p', 'l', 'a', 't', 'f', 'o', 'r', 'm', 's']
          ('[' :: (listed (platforms.map Platform.name) ++ [']'])) ++
        (pair ['e', 's', 'c', 'a', 'p', 'e'] ['f', 'a', 'l', 's', 'e'] ++ []))))))) := by
  have folder : (quote ".").toList = ['"', '.', '"'] := by rfl
  simp [manifestText, toList_platformsText, header, pair, folder]

/-! ## Reading -/

/-- What stands under the keys of a manifest. -/
def manifestEntries (name : String) (platforms : List Platform) : Toml.Entries :=
  [("project", .table .defined
      [("name", .value (.text name)), ("entry", .value (.text defaultEntry))]),
    ("build", .table .defined
      [("output_dir", .value (.text ".")),
        ("platforms", .value (.list ((platforms.map Platform.name).map Toml.Value.text))),
        ("escape", .value (.boolean false))])]

theorem lines_manifestText (name : String) (platforms : List Platform) :
    Lines ⟨[], []⟩ (manifestText name platforms).toList
      ⟨manifestEntries name platforms, ["build"]⟩ := by
  rw [toList_manifestText]
  apply Lines.ofHeader (by decide) rfl
  apply Lines.ofPair (by decide) (Toml.readsAs_quote name) (by decide) rfl
  apply Lines.ofPair (by decide) (Toml.readsAs_quote defaultEntry) (by decide) rfl
  apply Lines.ofBlank
  apply Lines.ofHeader (by decide) rfl
  apply Lines.ofPair (by decide) (Toml.readsAs_quote ".") (by decide) rfl
  apply Lines.ofPair (by decide) (Toml.readsAs_listed _) (by decide) rfl
  apply Lines.ofPair (by decide) Toml.readsAs_false (by decide) rfl
  exact Lines.done

theorem platformsOf?_names (platforms : List Platform) :
    Manifest.platformsOf? (some (.list ((platforms.map Platform.name).map Toml.Value.text))) =
      some platforms := by
  simp only [Manifest.platformsOf?]
  induction platforms with
  | nil => rfl
  | cons platform rest ih =>
      simp [Manifest.platformOf?, Platform.ofName?_name] at ih ⊢
      simp [ih]

theorem withBuild?_listed {items : List Toml.Value} {platforms : List Platform}
    (listed : Manifest.platformsOf? (some (.list items)) = some platforms) (manifest : Manifest) :
    manifest.withBuild? (some (.table
      [("output_dir", .text "."), ("platforms", .list items), ("escape", .boolean false)])) =
        some { manifest with outputFolder := ".", platforms := platforms, escapes := false } := by
  have folder : [("output_dir", Toml.Value.text "."), ("platforms", .list items),
      ("escape", .boolean false)].lookup "output_dir" = some (.text ".") := rfl
  have platformList : [("output_dir", Toml.Value.text "."), ("platforms", .list items),
      ("escape", .boolean false)].lookup "platforms" = some (.list items) := rfl
  have flag : [("output_dir", Toml.Value.text "."), ("platforms", .list items),
      ("escape", .boolean false)].lookup "escape" = some (.boolean false) := rfl
  simp [Manifest.withBuild?, Manifest.fields?, folder, platformList, flag, listed,
    Manifest.textOr, Manifest.flagOf?]

theorem ofText?_manifestText (name : String) (platforms : List Platform) :
    Manifest.ofText? (manifestText name platforms) =
      some { appName := name
             entry := defaultEntry
             outputFolder := "."
             platforms := platforms
             escapes := false } := by
  have unmarked : Toml.withoutMark (manifestText name platforms).toList =
      (manifestText name platforms).toList := by
    rw [toList_manifestText]
    rfl
  have read := (lines_manifestText name platforms).ofText? unmarked
  rw [Manifest.ofText?, read]
  exact withBuild?_listed (platformsOf?_names platforms) (Manifest.defaultFor name)

/-- What is written as the manifest of a new project is read as what was asked for: every name and
every list of platforms, with the defaults that the template spells out. -/
theorem project_manifest_reads_back (name : String) (platforms : List Platform) :
    ∃ started file, project name platforms = .ok started ∧
      started.file? (name ++ "/" ++ manifestFile) = some file ∧
        Manifest.ofText? file.content =
          some { appName := name
                 entry := defaultEntry
                 outputFolder := "."
                 platforms := platforms
                 escapes := false } := by
  have written : project name platforms =
      .ok ⟨[⟨name ++ "/" ++ manifestFile, manifestText name platforms, true⟩,
        ⟨name ++ "/" ++ defaultEntry, document.pretty ++ "\n", true⟩]⟩ := by
    simp [project, manifest_eq_ok]
  refine ⟨_, ⟨name ++ "/" ++ manifestFile, manifestText name platforms, true⟩, written, ?_,
    ofText?_manifestText name platforms⟩
  simp [Project.file?]

end Starter

end Polyview
