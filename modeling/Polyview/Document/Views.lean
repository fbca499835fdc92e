import Polyview.Document.Basic
import Polyview.Text.Blank

/-!
# The views of a document

Building the views of a document creates one cell for each named text and one for each text field
that edits a text of its own. Two fields share a cell exactly if they name the same text. The first
node that cannot be built, in reading order, is reported.
-/

namespace Polyview

/-- The kinds of node that may refer to a named text. -/
inductive Referrer where
  | text
  | field
  deriving DecidableEq, Repr

/-- Why a document has no views. -/
inductive DocumentError where
  /-- A text that both names a text and has a content. -/
  | textSetTwice
  /-- A field that both names a text and has a value. -/
  | fieldSetTwice (title : String)
  /-- A reference to a text that is not in the table. -/
  | unknownName (name : String) (referrer : Referrer)
  deriving DecidableEq, Repr

def Referrer.word : Referrer → String
  | .text => "text"
  | .field => "text_field"

def DocumentError.message : DocumentError → String
  | .textSetTwice => "Invalid document: text sets both binding and content"
  | .fieldSetTwice title =>
      "Invalid document: text_field '" ++ title ++ "' sets both binding and value"
  | .unknownName name referrer =>
      "Unknown state '" ++ name ++ "' referenced by " ++ referrer.word

/-- The cells of a document's named texts. -/
abbrev CellTable := List (String × Cell)

namespace Node

def cellFor (cells : CellTable) (name : String) (referrer : Referrer) :
    Except DocumentError Cell :=
  match cells.lookup name with
  | some cell => .ok cell
  | none => .error (.unknownName name referrer)

/-- A source text without the lines that declare state variables and without the blanks at its
ends. -/
def bodyOf (source : String) : String :=
  String.ofList (Text.trim (List.intercalate ['\n'] (StateVariable.undeclaringLines source)))

mutual

/-- The views of a node, and the store with the cells that they use. -/
def toView (cells : CellTable) (store : Store) : Node → Except DocumentError (View × Store)
  | .text content none => .ok (.label content, store)
  | .text content (some name) =>
      if content ≠ "" then
        .error .textSetTwice
      else do
        let cell ← cellFor cells name .text
        return (.labelFrom store (.cell cell), store)
  | .field title none value =>
      let (cell, store) := store.create value
      .ok (.field title (.cell cell), store)
  | .field title (some name) value =>
      if value ≠ "" then
        .error (.fieldSetTwice title)
      else do
        let cell ← cellFor cells name .field
        return (.field title (.cell cell), store)
  | .stack children => do
      let (views, store) ← toViews cells store children
      return (.stack views, store)
  | .description source body =>
      .ok (.description (body.getD (bodyOf source)) (StateVariable.scan source), store)

def toViews (cells : CellTable) (store : Store) :
    List Node → Except DocumentError (List View × Store)
  | [] => .ok ([], store)
  | node :: rest => do
      let (view, store) ← node.toView cells store
      let (views, store) ← toViews cells store rest
      return (view :: views, store)

end

end Node

namespace Document

def createCells (store : Store) : List (String × String) → CellTable × Store
  | [] => ([], store)
  | (name, text) :: rest =>
      let (cell, store) := store.create text
      let (cells, store) := createCells store rest
      ((name, cell) :: cells, store)

/-- The views of a document, in cells of their own. -/
def toView (document : Document) (store : Store) : Except DocumentError (View × Store) :=
  let (cells, store) := createCells store document.state.entries
  document.root.toView cells store

end Document

end Polyview
