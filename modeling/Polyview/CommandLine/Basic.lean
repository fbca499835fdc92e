import Polyview.Platform

/-!
# Command lines

What a command line asks for, and why one may be refused.
-/

namespace Polyview.CommandLine

/-- How much is noted down while a command runs. -/
inductive LogLevel where
  | off
  | error
  | warn
  | info
  | debug
  | trace
  deriving DecidableEq, Repr

namespace LogLevel

def all : List LogLevel := [.off, .error, .warn, .info, .debug, .trace]

def name : LogLevel → String
  | .off => "off"
  | .error => "error"
  | .warn => "warn"
  | .info => "info"
  | .debug => "debug"
  | .trace => "trace"

def ofName? (name : String) : Option LogLevel := all.find? (fun level => level.name == name)

theorem ofName?_name (level : LogLevel) : ofName? level.name = some level := by
  cases level <;> decide

end LogLevel

/-- What is to be done. -/
inductive Command where
  /-- Start a project. Without platforms it is for all of them. -/
  | new (name : String) (platforms : List Platform)
  /-- Render a document. -/
  | render (file : String) (platform : Platform) (asPage escapes : Bool) (appName : String)
  /-- Generate projects, for the platforms of the manifest unless one is given. -/
  | build (platform : Option Platform)
  /-- Build a generated project. -/
  | compile (platform : Platform)
  deriving DecidableEq, Repr

/-- A command with the settings that every command has. -/
structure Invocation where
  command : Command
  logLevel : Option LogLevel
  isVerbose : Bool
  /-- The path of the manifest, if it is not where it is looked for by itself. -/
  manifest : Option String
  deriving DecidableEq, Repr

/-- The level in effect: the given one, or a higher one than usual for a verbose command. -/
def Invocation.effectiveLevel (invocation : Invocation) : LogLevel :=
  match invocation.logLevel, invocation.isVerbose with
  | some level, _ => level
  | none, true => .debug
  | none, false => .warn

/-- Why a command line is not carried out. -/
inductive Refusal where
  | invalidValue
  | unknownArgument
  | invalidCommand
  /-- Settings without a command. -/
  | missingCommand
  /-- Nothing at all. -/
  | nothingAsked
  | missingArgument
  /-- A setting that is made twice. -/
  | repeatedArgument
  /-- A value for a flag. -/
  | unwantedValue
  /-- Help is shown instead. -/
  | help
  /-- The version is shown instead. -/
  | version
  deriving DecidableEq, Repr

def Refusal.exitCode : Refusal → Nat
  | .help | .version => 0
  | .invalidValue | .unknownArgument | .invalidCommand | .missingCommand | .nothingAsked
  | .missingArgument | .repeatedArgument | .unwantedValue => 2

end Polyview.CommandLine
