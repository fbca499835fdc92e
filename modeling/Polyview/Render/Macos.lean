import Polyview.Escape.StringLiteral
import Polyview.Escape.TypeName
import Polyview.Render.Style

/-!
# Rendering for macOS

Views are written as SwiftUI source. A text field names its value as an expression, which is never
quoted. A description is a whole content view, so a document puts it in as it is, while any other
tree becomes the body of a content view.
-/

namespace Polyview.Render.Macos

/-- A content view that declares state variables and has a text as its body. -/
def describedView (text : String) (declared : List StateVariable) : String :=
  "struct ContentView: View \x7b\n    " ++
    "\n    ".intercalate (declared.map (fun declaration => declaration.declarationFor .macos)) ++
    "\n\n    var body: some View \x7b\n        " ++ text ++ "\n    \x7d\n\x7d"

def contentView (fragment : String) : String :=
  "struct ContentView: View \x7b\n    var body: some View \x7b\n        " ++ fragment ++
    "\n    \x7d\n\x7d"

/-- An application around the declaration of its content view. -/
def application (appName declaration : String) : String :=
  "import SwiftUI\n\n" ++ declaration ++ "\n\n@main\nstruct " ++ TypeName.ofName appName ++
    "App: App \x7b\n    var body: some Scene \x7b\n        WindowGroup \x7b\n" ++
    "            ContentView()\n        \x7d\n    \x7d\n\x7d\n"

/-- How views are written, with texts escaped or as they are. -/
def style (escape : Bool) : Style where
  label content := "Text(\"" ++ literal content ++ "\")"
  field title value := "TextField(\"" ++ literal title ++ "\", text: " ++ value ++ ")"
  opening := "VStack \x7b\n    "
  separator := "\n"
  closing := "\n\x7d"
  description := describedView
  page appName fragment := application appName (contentView fragment)
  descriptionPage := application
where
  literal (text : String) : String := if escape then StringLiteral.escape text else text

end Polyview.Render.Macos
