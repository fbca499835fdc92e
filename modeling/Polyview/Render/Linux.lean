import Polyview.Escape.StringLiteral
import Polyview.Render.Style

/-!
# Rendering for Linux

Views are written as a description of GTK widgets, which a small program keeps in a string constant
and prints. Escaping applies to the texts inside the description and once more to the constant.
-/

namespace Polyview.Render.Linux

/-- How views are written, with texts escaped or as they are. -/
def style (escape : Bool) : Style where
  label content := "Label(\"" ++ literal content ++ "\")"
  field title value :=
    "Entry(text: \"" ++ literal value ++ "\", placeholder: \"" ++ literal title ++ "\")"
  opening := "GtkVBox \x7b\n    "
  separator := ", "
  closing := "\n\x7d"
  description text _ := text
  page _ fragment := program fragment
  descriptionPage _ fragment := program fragment
where
  literal (text : String) : String := if escape then StringLiteral.escape text else text
  program (fragment : String) : String :=
    "import Glibc\n\nlet content = \"" ++ literal fragment ++
      "\"\nprint(\"Running Linux UI: \\(content)\")\n"

end Polyview.Render.Linux
