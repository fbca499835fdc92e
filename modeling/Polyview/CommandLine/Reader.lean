import Polyview.CommandLine.Basic
import Polyview.Render.Target

/-!
# Reading command lines

The arguments are read from left to right: first the settings for all commands, then the name of a
command, then its arguments and again settings. The value of an option is looked at as late as
possible, when the next argument has turned out to be a proper one or the arguments have ended.
-/

namespace Polyview.CommandLine

/-- What an argument sets. -/
inductive Key where
  /-- What a command is about, which has no name of its own. -/
  | subject
  | logLevel
  | verbose
  | manifest
  | platform
  | page
  | escape
  | appName
  | help
  | version
  deriving DecidableEq, Repr

namespace Key

def long? : Key → Option String
  | .logLevel => some "log-level"
  | .verbose => some "verbose"
  | .manifest => some "config"
  | .platform => some "platform"
  | .page => some "root"
  | .escape => some "escape"
  | .appName => some "app-name"
  | .help => some "help"
  | .version => some "version"
  | .subject => none

def short? : Key → Option Char
  | .logLevel => some 'l'
  | .verbose => some 'v'
  | .manifest => some 'C'
  | .platform => some 'p'
  | .help => some 'h'
  | .version => some 'V'
  | .subject | .page | .escape | .appName => none

def takesValue : Key → Bool
  | .subject | .logLevel | .manifest | .platform | .appName => true
  | .verbose | .page | .escape | .help | .version => false

end Key

/-- The commands by name. -/
inductive Verb where
  | new
  | render
  | build
  | compile
  deriving DecidableEq, Repr

namespace Verb

def all : List Verb := [.new, .render, .build, .compile]

def name : Verb → String
  | .new => "new"
  | .render => "render"
  | .build => "build"
  | .compile => "compile"

def ofName? (name : String) : Option Verb := all.find? (fun verb => verb.name == name)

end Verb

/-- The options that may stand before and after the name of a command. -/
def sharedKeys : List Key := [.logLevel, .verbose, .manifest, .help]

/-- The options that may be given at a place: before the name of a command, or after it. -/
def keysAt : Option Verb → List Key
  | none => .version :: sharedKeys
  | some .new | some .build | some .compile => .platform :: sharedKeys
  | some .render => [.platform, .page, .escape, .appName] ++ sharedKeys

/-- Whether a command has a subject, which is given without a name. -/
def hasSubject : Option Verb → Bool
  | some .new | some .render => true
  | none | some .build | some .compile => false

/-- Whether a value is fit for what it is to set. The path of a manifest or of a document is not
empty. -/
def accepts (place : Option Verb) (key : Key) (value : String) : Bool :=
  match key with
  | .logLevel => (LogLevel.ofName? value).isSome
  | .platform => (Platform.ofName? value).isSome
  | .manifest => !value.isEmpty
  | .subject => place != some .render || !value.isEmpty
  | .verbose | .page | .escape | .appName | .help | .version => true

/-- Whether an option may be given several times at a place. -/
def isRepeatable (place : Option Verb) (key : Key) : Bool := place == some .new && key == .platform

/-- What has been read at a place. -/
structure Reading where
  /-- What is set next: its value has not been looked at, if it has been given at all. -/
  pending : Option (Key × Option String)
  /-- What has been set, in order. -/
  settings : List (Key × String)
  deriving DecidableEq, Repr

namespace Reading

def start : Reading := ⟨none, []⟩

def set (reading : Reading) (place : Option Verb) (key : Key) (value : String) :
    Except Refusal Reading :=
  if !isRepeatable place key && reading.settings.any (fun setting => setting.1 == key) then
    .error .repeatedArgument
  else if accepts place key value then
    .ok { reading with settings := reading.settings ++ [(key, value)] }
  else
    .error .invalidValue

/-- Look at the value of the option that is pending. -/
def settle (reading : Reading) (place : Option Verb) : Except Refusal Reading :=
  match reading.pending with
  | none => .ok reading
  | some (_, none) => .error .invalidValue
  | some (key, some value) => set { reading with pending := none } place key value

/-- Set a flag, or show what it asks for. -/
def raise (reading : Reading) (place : Option Verb) (key : Key) : Except Refusal Reading := do
  let reading ← reading.settle place
  match key with
  | .help => throw .help
  | .version => throw .version
  | key => reading.set place key ""

/-- Set an option to a value that is written together with it. -/
def attach (reading : Reading) (place : Option Verb) (key : Key) (value : String) :
    Except Refusal Reading := do
  let reading ← reading.settle place
  reading.set place key value

/-- Wait for the value of an option. -/
def await (reading : Reading) (place : Option Verb) (key : Key) : Except Refusal Reading := do
  let reading ← reading.settle place
  return { reading with pending := some (key, none) }

def awaited? (reading : Reading) : Option Key :=
  match reading.pending with
  | some (key, none) => some key
  | _ => none

def readLong (reading : Reading) (place : Option Verb) (name : String) (value : Option String) :
    Except Refusal Reading :=
  match (keysAt place).find? (fun key => key.long? == some name) with
  | none => .error .unknownArgument
  | some key =>
      match key.takesValue, value with
      | true, some value => reading.attach place key value
      | true, none => reading.await place key
      | false, some _ => .error .unwantedValue
      | false, none => reading.raise place key

/-- Read options by their short names, of which the last one may have its value attached. -/
def readShort (reading : Reading) (place : Option Verb) : List Char → Except Refusal Reading
  | [] => .ok reading
  | c :: rest =>
      match (keysAt place).find? (fun key => key.short? == some c) with
      | none => .error .unknownArgument
      | some key =>
          if key.takesValue then
            match rest with
            | [] => reading.await place key
            | '=' :: value => reading.attach place key (String.ofList value)
            | value => reading.attach place key (String.ofList value)
          else do
            let reading ← reading.raise place key
            reading.readShort place rest

def hasSubject (reading : Reading) : Bool :=
  reading.pending.any (fun pending => pending.1 == .subject) ||
    reading.settings.any (fun setting => setting.1 == .subject)

/-- Read an argument without a name. Only the first one has a meaning, and none has one before the
name of a command. -/
def readSubject (reading : Reading) (place : Option Verb) (isLiteral : Bool) (value : String) :
    Except Refusal Reading :=
  if CommandLine.hasSubject place && !reading.hasSubject then do
    let reading ← reading.settle place
    return { reading with pending := some (.subject, some value) }
  else
    match place with
    | some _ => .error .unknownArgument
    | none =>
        if isLiteral && (value == "help" || (Verb.ofName? value).isSome) then
          .error .unknownArgument
        else
          .error .invalidCommand

end Reading

def longParts (text : List Char) : String × Option String :=
  let name := String.ofList (text.takeWhile (fun c => c != '='))
  match text.dropWhile (fun c => c != '=') with
  | [] => (name, none)
  | _ :: value => (name, some (String.ofList value))

/-- What help on commands is given. At most one command may be named. -/
def helpOn : List String → Refusal
  | [] => .help
  | [name] => if name = "help" ∨ (Verb.ofName? name).isSome then .help else .invalidCommand
  | _ :: _ :: _ => .invalidCommand

/-- What is read before the name of a command, or after it. Before it, the result has the command
and the arguments after its name. After two dashes, `isLiteral` holds and every argument stands for
itself. -/
def readFrom (place : Option Verb) (isLiteral : Bool) (reading : Reading) :
    List String → Except Refusal (Reading × Option (Verb × List String))
  | [] => .ok (reading, none)
  | argument :: rest =>
      if isLiteral then do
        let reading ← reading.readSubject place true argument
        readFrom place true reading rest
      else
        let isFree := reading.awaited?.isNone && place.isNone
        match isFree && argument == "help", isFree, Verb.ofName? argument with
        | true, _, _ => .error (helpOn rest)
        | false, true, some verb => .ok (reading, some (verb, rest))
        | _, _, _ =>
            match argument.toList, reading.awaited? with
            | ['-', '-'], _ => readFrom place true reading rest
            | '-' :: '-' :: text, _ => do
                let (name, value) := longParts text
                let reading ← reading.readLong place name value
                readFrom place false reading rest
            | '-' :: c :: text, _ => do
                let reading ← reading.readShort place (c :: text)
                readFrom place false reading rest
            | _, some key =>
                readFrom place false { reading with pending := some (key, some argument) } rest
            | _, none => do
                let reading ← reading.readSubject place false argument
                readFrom place false reading rest

namespace Reading

def values (reading : Reading) (key : Key) : List String :=
  (reading.settings.filter (fun setting => setting.1 == key)).map (fun setting => setting.2)

def value? (reading : Reading) (key : Key) : Option String := (reading.values key).head?

def has (reading : Reading) (key : Key) : Bool := (reading.value? key).isSome

def platform? (reading : Reading) : Option Platform :=
  (reading.value? .platform).bind Platform.ofName?

def command (reading : Reading) : Verb → Except Refusal Command
  | .new =>
      match reading.value? .subject with
      | some name => .ok (.new name ((reading.values .platform).filterMap Platform.ofName?))
      | none => .error .missingArgument
  | .render =>
      match reading.value? .subject, reading.platform? with
      | some file, some platform =>
          .ok (.render file platform (reading.has .page) (reading.has .escape)
            ((reading.value? .appName).getD defaultAppName))
      | _, _ => .error .missingArgument
  | .build => .ok (.build reading.platform?)
  | .compile =>
      match reading.platform? with
      | some platform => .ok (.compile platform)
      | none => .error .missingArgument

end Reading

/-- What a command line asks for, given its arguments after the name of the program. A setting after
the name of the command counts before one that stands in front of it. -/
def read (arguments : List String) : Except Refusal Invocation := do
  let (before, verb) ← readFrom none false .start arguments
  match verb with
  | none =>
      let before ← before.settle none
      throw (if before.settings.isEmpty then .nothingAsked else .missingCommand)
  | some (verb, rest) =>
      let (after, _) ← readFrom (some verb) false .start rest
      let after ← after.settle (some verb)
      let command ← after.command verb
      let before ← before.settle none
      return {
        command := command
        logLevel := (after.value? .logLevel <|> before.value? .logLevel).bind LogLevel.ofName?
        isVerbose := after.has .verbose || before.has .verbose
        manifest := after.value? .manifest <|> before.value? .manifest }

end Polyview.CommandLine
