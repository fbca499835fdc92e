import Polyview.Text.Blank

/-!
# Platforms

The three platforms for which interfaces are generated, their names, and the folders that hold what
is generated for them.
-/

namespace Polyview

/-- A platform that an interface can be generated for. -/
inductive Platform where
  | macos
  | windows
  | linux
  deriving DecidableEq, Repr

namespace Platform

/-- Every platform, in the order in which projects are generated by default. -/
def all : List Platform := [.macos, .windows, .linux]

def name : Platform → String
  | .macos => "macos"
  | .windows => "windows"
  | .linux => "linux"

def framework : Platform → String
  | .macos => "SwiftUI"
  | .windows => "XAML"
  | .linux => "GTK"

/-- The folder below `Build` that receives the platform's project. -/
def folder : Platform → String
  | .macos => "macOS"
  | .windows => "windows"
  | .linux => "linux"

def ofName? (name : String) : Option Platform :=
  all.find? (fun platform => platform.name == name)

theorem ofName?_name (platform : Platform) : ofName? platform.name = some platform := by
  cases platform <;> decide

/-- The names that people may give to a platform: its own, a short one, or its framework's. -/
def aliases : List (String × Platform) :=
  [("macos", .macos), ("mac", .macos), ("swiftui", .macos),
    ("windows", .windows), ("win", .windows), ("xaml", .windows), ("winui", .windows),
    ("linux", .linux), ("gtk", .linux)]

/-- The platform that people mean by a name, in any case of its Latin letters and with blanks
around it. -/
def ofAlias? (given : String) : Option Platform :=
  aliases.lookup (String.ofList ((Text.trim given.toList).map Char.toLower))

end Platform

end Polyview
