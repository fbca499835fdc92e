import Polyview.Render.Linux
import Polyview.Render.Macos
import Polyview.Render.Windows

/-!
# Rendering for a platform
-/

namespace Polyview

/-- How views are written for a platform. With `escape`, each text is written so that it cannot end
the place where it stands. -/
def Platform.style (escape : Bool) : Platform → Style
  | .macos => Render.Macos.style escape
  | .windows => Render.Windows.style escape
  | .linux => Render.Linux.style escape

/-- The application name of a document whose author gave none. -/
def defaultAppName : String := "CrossUI"

end Polyview
