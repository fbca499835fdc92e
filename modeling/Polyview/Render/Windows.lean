import Polyview.Escape.Markup
import Polyview.Render.Style

/-!
# Rendering for Windows

Views are written as XAML markup. Markup has no state of its own, so a description is put in as it
is.
-/

namespace Polyview.Render.Windows

def page (fragment : String) : String :=
  "<Page\n    x:Class=\"MainPage\"\n" ++
    "    xmlns=\"http://schemas.microsoft.com/winfx/2006/xaml/presentation\"\n" ++
    "    xmlns:x=\"http://schemas.microsoft.com/winfx/2006/xaml\"\n" ++
    "    mc:Ignorable=\"d\">\n    <Grid>\n        " ++ fragment ++ "\n    </Grid>\n</Page>\n"

/-- How views are written, with texts escaped or as they are. -/
def style (escape : Bool) : Style where
  label content := "<TextBlock Text=\"" ++ plain content ++ "\" />"
  field title value :=
    "<TextBox Text=\"\x7bBinding " ++ path value ++ "\x7d\" PlaceholderText=\"" ++
      plain title ++ "\" />"
  opening := "<StackPanel Orientation=\"Vertical\">\n    "
  separator := "\n"
  closing := "\n</StackPanel>"
  description text _ := text
  page _ fragment := page fragment
  descriptionPage _ fragment := page fragment
where
  plain (text : String) : String := if escape then Markup.attributeText text else text
  path (text : String) : String := if escape then Markup.pathText text else text

end Polyview.Render.Windows
