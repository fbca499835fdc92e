import Polyview.Project.Boilerplate
import Polyview.Proofs.Template.Filling

/-!
# Boilerplate filled in

A boilerplate template consists of texts and of places for the name of the application, as it is or
converted. So all of these templates can be registered, and each of them can be filled in whatever
the application is called.
-/

namespace Polyview.Boilerplate

open Template
open Json (Value)

/-- A part of a boilerplate template. -/
inductive Piece where
  | fixed (text : String)
  /-- The name of the application, as it is or converted. -/
  | name (conversion : Option Conversion)
  deriving DecidableEq

def Piece.filled (appName : String) : Piece → String
  | .fixed unchanged => unchanged
  | .name none => appName
  | .name (some rule) => rule.apply appName

def conversion? (helper : String) : Option Conversion :=
  match helper? helper with
  | some (.conversion rule) => some rule
  | _ => none

/-- The piece that an element of a template is, unless it asks for anything but the name of the
application. -/
def pieceOf? : Element → Option Piece
  | .text unchanged => some (.fixed unchanged)
  | .output _ (.reference (.path false 0 ["app_name"] "app_name")) => some (.name none)
  | .helper _ (.mk helper [.reference (.path false 0 ["app_name"] _)] []) =>
      (conversion? helper).map fun rule => .name (some rule)
  | _ => none

/-- The data of every boilerplate template. -/
def members (appName : String) : List (String × Value) := [("app_name", .text appName)]

variable {nested : String → Setting → Except Failure String} {setting : Setting}

theorem helper?_eq_of_conversion? {helper : String} {rule : Conversion}
    (isConversion : conversion? helper = some rule) :
    helper? helper = some (.conversion rule) := by
  unfold conversion? at isConversion
  split at isConversion
  next found => rw [found, Option.some.inj isConversion]
  next => cases isConversion

theorem fill_of_pieceOf? {appName : String} (isOutermost : setting.IsOutermost (members appName))
    {element : Element} {piece : Piece} (isPiece : pieceOf? element = some piece) :
    fill nested setting element = .ok (piece.filled appName) := by
  have isMember : (members appName).lookup "app_name" = some (.text appName) := rfl
  unfold pieceOf? at isPiece
  split at isPiece
  · obtain rfl := Option.some.inj isPiece
    exact fill_text isOutermost.flush _
  · obtain rfl := Option.some.inj isPiece
    have notHelper : helper? "app_name" = none := by decide
    exact fill_member isOutermost notHelper isMember _
  · obtain ⟨rule, isConversion, rfl⟩ := Option.map_eq_some_iff.mp isPiece
    exact fill_conversion isOutermost (helper?_eq_of_conversion? isConversion) isMember _ _
  · cases isPiece

theorem fillAll_of_pieces {appName : String} (isOutermost : setting.IsOutermost (members appName))
    {elements : List Element} {pieces : List Piece}
    (arePieces : elements.mapM pieceOf? = some pieces) :
    fillAll nested setting elements = .ok (String.join (pieces.map (Piece.filled appName))) := by
  induction elements generalizing pieces with
  | nil =>
      obtain rfl := Option.some.inj arePieces
      rfl
  | cons element elements ih =>
      rw [List.mapM_cons, Option.bind_eq_bind, Option.bind_eq_some_iff] at arePieces
      obtain ⟨piece, isPiece, rest⟩ := arePieces
      rw [Option.bind_eq_bind, Option.bind_eq_some_iff] at rest
      obtain ⟨later, arePieces, isList⟩ := rest
      obtain rfl := Option.some.inj isList
      rw [List.map_cons, String.join_cons]
      exact fillAll_cons (fill_of_pieceOf? isOutermost isPiece) (ih arePieces)

/-! ## The templates -/

def elements (kind : Boilerplate) : List Element := (ofText? kind.text).getD []

def pieces (kind : Boilerplate) : List Piece := (kind.elements.mapM pieceOf?).getD []

/-- The content of a boilerplate file for an application. -/
def filled (appName : String) (kind : Boilerplate) : String :=
  String.join (kind.pieces.map (Piece.filled appName))

set_option maxRecDepth 20000 in
/-- Every boilerplate template can be read, and asks for the name of the application only. -/
theorem isSome_pieces (kind : Boilerplate) :
    ((ofText? kind.text).bind fun elements => elements.mapM pieceOf?).isSome := by
  -- The texts become lists of characters line by line, which is much faster than as a whole.
  cases kind <;>
    (simp only [ofText?, text, lines, List.map_cons, List.map_nil, String.join_cons,
      String.join_nil, String.toList_append]
     repeat rw [String.toList_ofList]
     decide +kernel)

theorem ofText?_text (kind : Boilerplate) : ofText? kind.text = some kind.elements := by
  have readable := kind.isSome_pieces
  rw [elements]
  cases found : ofText? kind.text with
  | none =>
      rw [found] at readable
      cases readable
  | some elements => rfl

theorem mapM_pieceOf?_elements (kind : Boilerplate) :
    kind.elements.mapM pieceOf? = some kind.pieces := by
  have readable := kind.isSome_pieces
  rw [ofText?_text, Option.bind_some] at readable
  rw [pieces]
  cases found : kind.elements.mapM pieceOf? with
  | none =>
      rw [found] at readable
      cases readable
  | some pieces => rfl

/-! ## The library -/

theorem library?_eq :
    library? = some ⟨all.reverse.map fun kind => (kind.name, kind.elements)⟩ := by
  simp only [library?, all, List.foldlM_cons, List.foldlM_nil, Library.register?, ofText?_text,
    Option.map_some, Option.bind_eq_bind, Option.bind_some]
  rfl

/-- A boilerplate file has the same pieces for every application, and can always be filled in. -/
theorem render_eq_ok {library : Library} (isLibrary : library? = some library)
    (kind : Boilerplate) (appName : String) :
    library.render kind.name (.object (members appName)) = .ok (kind.filled appName) := by
  have isTemplate : library.template? kind.name = some kind.elements := by
    obtain rfl := Option.some.inj (library?_eq.symm.trans isLibrary)
    cases kind <;> rfl
  refine Library.render_of_fillAll isTemplate fun nested => ?_
  exact fillAll_of_pieces ⟨rfl, rfl, rfl⟩ kind.mapM_pieceOf?_elements

end Polyview.Boilerplate
