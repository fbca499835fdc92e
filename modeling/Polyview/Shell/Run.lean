import Polyview.Disk.Machine
import Polyview.Host
import Polyview.Shell.Script

/-!
# Running scripts

A script runs on a machine, where it may print, write files and move to other folders. It ends with
an exit code or through a signal.
-/

namespace Polyview.Shell

open Disk (Machine)

/-- A running shell. -/
structure State where
  machine : Machine
  /-- The name of the script and its parameters. -/
  arguments : List String
  assignments : List (String × String)
  /-- The exit code of the command before. -/
  status : Nat

/-- What a command does: it prints a text, changes the state, and may end the script. -/
structure Effect where
  output : String
  state : State
  ending : Option Ending

def State.answer (state : State) (output : String) (status : Nat) : Effect :=
  ⟨output, { state with status := status }, none⟩

def State.value (state : State) (name : String) : String :=
  if name = "#" then Nat.repr (state.arguments.length - 1)
  else if name = "?" then Nat.repr state.status
  else if name = "@" ∨ name = "*" then " ".intercalate (state.arguments.drop 1)
  else
    match name.toNat? with
    | some position => state.arguments[position]?.getD ""
    | none =>
        (state.assignments.lookup name).getD (if name = "PWD" then state.machine.hereText else "")

/-- The words that a text is cut into at its blanks, where the first one has begun with `begun`,
unless there is none yet. -/
def cut (begun : Option String) : List Char → List String × Option String
  | [] => ([], begun)
  | c :: rest =>
      if c = ' ' ∨ c = '\t' ∨ c = '\n' then
        let (words, last) := cut none rest
        (begun.toList ++ words, last)
      else
        cut (some (begun.getD "" ++ String.singleton c)) rest

/-- The words that pieces become, where the first one has begun with `begun`, unless there is none
yet. -/
def State.expandFrom (state : State) (begun : Option String) : Word → List String
  | [] => begun.toList
  | .text text :: rest => state.expandFrom (some (begun.getD "" ++ text)) rest
  | .emptyQuotes :: rest => state.expandFrom (some (begun.getD "")) rest
  | .parameter true "$" :: rest | .parameter false "$" :: rest =>
      state.expandFrom (some (begun.getD "" ++ "$")) rest
  | .parameter true "@" :: rest =>
      match state.arguments.drop 1 with
      | [] => state.expandFrom begun rest
      | first :: more =>
          let joined := (begun.getD "" ++ first) :: more
          joined.dropLast ++ state.expandFrom joined.getLast? rest
  | .parameter true name :: rest =>
      state.expandFrom (some (begun.getD "" ++ state.value name)) rest
  | .parameter false name :: rest =>
      let (words, last) := cut begun (state.value name).toList
      words ++ state.expandFrom last rest

def State.expand (state : State) (word : Word) : List String := state.expandFrom none word

def State.expandOne (state : State) (word : Word) : String := " ".intercalate (state.expand word)

def escaped? : Char → Option Char
  | 'n' => some '\n'
  | 't' => some '\t'
  | 'r' => some '\r'
  | 'a' => some '\x07'
  | 'b' => some '\x08'
  | 'f' => some '\x0c'
  | 'v' => some '\x0b'
  | '\\' => some '\\'
  | _ => none

def unescaped : List Char → List Char
  | '\\' :: c :: rest =>
      match escaped? c with
      | some character => character :: unescaped rest
      | none => '\\' :: c :: unescaped rest
  | c :: rest => c :: unescaped rest
  | [] => []

/-- A format with its escapes resolved and arguments put in, and the arguments that are left. -/
def formatted (arguments : List String) : List Char → List Char × List String
  | '%' :: '%' :: rest =>
      let (text, left) := formatted arguments rest
      ('%' :: text, left)
  | '%' :: 's' :: rest =>
      let (text, left) := formatted (arguments.drop 1) rest
      ((arguments.head?.getD "").toList ++ text, left)
  | '%' :: 'd' :: rest =>
      let (text, left) := formatted (arguments.drop 1) rest
      ((arguments.head?.getD "0").toList ++ text, left)
  | '\\' :: c :: rest =>
      let (text, left) := formatted arguments rest
      match escaped? c with
      | some character => (character :: text, left)
      | none => ('\\' :: c :: text, left)
  | c :: rest =>
      let (text, left) := formatted arguments rest
      (c :: text, left)
  | [] => ([], arguments)

/-- A format that is used again as long as arguments are left. -/
def formattedAll (fuel : Nat) (format : List Char) (arguments : List String) : List Char :=
  match fuel, formatted arguments format with
  | 0, (text, _) => text
  | fuel + 1, (text, left) =>
      if left.isEmpty ∨ left.length = arguments.length then text
      else text ++ formattedAll fuel format left

/-- The contents of files, and whether all could be read. Nothing stands on the standard input. -/
def contents (machine : Machine) : List String → String × Bool
  | [] => ("", true)
  | "-" :: rest => contents machine rest
  | path :: rest =>
      let (text, complete) := contents machine rest
      match machine.readText path with
      | .ok content => (content ++ text, complete)
      | .error _ => (text, false)

/-- Change a machine at each of several paths. The status is zero if every change succeeded. -/
def State.changeAll (state : State) (change : Machine → String → Machine.Outcome)
    (paths : List String) : State :=
  paths.foldl
    (fun state path =>
      match change state.machine path with
      | (.ok (), machine) => { state with machine := machine }
      | (.error _, machine) => { state with machine := machine, status := 1 })
    { state with status := 0 }

def touched (machine : Machine) (path : String) : Machine.Outcome :=
  if machine.has path then (.ok (), machine) else machine.writeText path ""

/-- The signals that do not end a program, by number and name. -/
def harmlessSignals : List String :=
  ["0", "CHLD", "17", "CONT", "18", "URG", "23", "WINCH", "28"]

/-- Whether a condition on texts and paths holds. There is no answer to what is no condition. -/
def State.test? (state : State) : List String → Option Bool
  | [] => some false
  | "!" :: words => (State.test? state words).map not
  | [word] => some (!word.isEmpty)
  | ["-n", word] => some (!word.isEmpty)
  | ["-z", word] => some word.isEmpty
  | ["-e", path] => some (state.machine.has path)
  | ["-d", path] => some (state.machine.hasFolder path)
  | ["-f", path] => some (state.machine.readText path).toBool
  | [first, "=", second] => some (first == second)
  | [first, "!=", second] => some (first != second)
  | _ => none

/-- What a test does: its status tells whether the condition holds. -/
def State.tested (state : State) (words : List String) : Effect :=
  match state.test? words with
  | some true => state.answer "" 0
  | some false => state.answer "" 1
  | none => state.answer "" 2

/-- What a command does that the shell itself knows. There is nothing for other commands. -/
def State.builtin? (state : State) (name : String) (arguments : List String) : Option Effect :=
  match name, arguments with
  | ":", _ | "true", _ => some (state.answer "" 0)
  | "false", _ => some (state.answer "" 1)
  | "exit", [] => some ⟨"", state, some (.exit state.status)⟩
  | "exit", code :: _ =>
      some ⟨"", state, some (.exit ((code.toNat?.map (fun code => code % 256)).getD 2))⟩
  | "echo", "-n" :: words => some (state.answer (spaced words) 0)
  | "echo", words => some (state.answer (spaced words ++ "\n") 0)
  | "printf", [] => some (state.answer "" 2)
  | "printf", format :: words =>
      some (state.answer (String.ofList (formattedAll words.length format.toList words)) 0)
  | "pwd", _ => some (state.answer (state.machine.hereText ++ "\n") 0)
  | "cd", path :: _ =>
      match state.machine.find path with
      | .ok (place, .folder _) =>
          some (State.answer { state with machine := { state.machine with here := place } } "" 0)
      | _ => some (state.answer "" 2)
  | "cat", paths =>
      let (text, complete) := contents state.machine paths
      some (state.answer text (if complete then 0 else 1))
  | "read", names =>
      let emptied := names.map (fun name => (name, ""))
      some (State.answer { state with assignments := emptied ++ state.assignments } "" 1)
  | "test", words => some (state.tested words)
  | "[", words =>
      some (if words.getLast? = some "]" then state.tested words.dropLast else state.answer "" 2)
  | "sleep", [_] => some (state.answer "" 0)
  | "touch", paths => some ⟨"", state.changeAll touched paths, none⟩
  | "mkdir", "-p" :: paths => some ⟨"", state.changeAll Machine.makeFolders paths, none⟩
  | "mkdir", paths => some ⟨"", state.changeAll Machine.makeFolder paths, none⟩
  | "kill", ["$"] => some (killed "TERM")
  | "kill", ["-s", sign, "$"] => some (killed sign)
  | "kill", [sign, "$"] => some (killed (String.ofList (sign.toList.drop 1)))
  | "kill", _ => some (state.answer "" 1)
  | _, _ => none
where
  spaced (words : List String) : String :=
    String.ofList (unescaped (" ".intercalate words).toList)
  killed (sign : String) : Effect :=
    if harmlessSignals.contains sign then state.answer "" 0 else ⟨"", state, some .signal⟩

/-- What printing a text does under redirections. The last one for the output counts. -/
def State.deliver (state : State) (text : String) : List Redirection → Option Redirection → State
  | [], none => { state with machine := state.machine.print text }
  | [], some (.toFile path) => written path text
  | [], some (.appendTo path) =>
      let known := (state.machine.readText (state.expandOne path)).toOption.getD ""
      written path (known ++ text)
  | [], some _ => state
  | .fromFile _ :: rest, last => state.deliver text rest last
  | .ofComplaints :: rest, last => state.deliver text rest last
  | redirection :: rest, _ => state.deliver text rest (some redirection)
where
  written (path : Word) (text : String) : State :=
    match state.machine.writeText (state.expandOne path) text with
    | (.ok (), machine) => { state with machine := machine }
    | (.error _, _) => { state with status := 2 }

/-- The exit code for a command that nobody knows. -/
def unknownCommand : Nat := 127

/-- An assignment to a variable, as the first word of a command. -/
def assignment? (word : String) : Option (String × String) :=
  let name := word.toList.takeWhile isNameChar
  match word.toList.dropWhile isNameChar with
  | '=' :: value =>
      if name.isEmpty then none else some (String.ofList name, String.ofList value)
  | _ => none

/-- The state after a command, and its ending if it ends the script. -/
def State.run (state : State) (command : Command) : State × Option Ending :=
  match command.words.flatMap state.expand with
  | [] => ({ state.deliver "" command.redirections none with status := 0 }, none)
  | name :: arguments =>
      match assignment? name, arguments with
      | some (variableName, value), [] =>
          ({ state with assignments := (variableName, value) :: state.assignments, status := 0 }, none)
      | _, _ =>
          let effect :=
            match name, arguments with
            | "exec", inner :: arguments =>
                let effect :=
                  (state.builtin? inner arguments).getD (state.answer "" unknownCommand)
                { effect with ending := effect.ending.or (some (.exit effect.state.status)) }
            | _, _ => (state.builtin? name arguments).getD (state.answer "" unknownCommand)
          (effect.state.deliver effect.output command.redirections none, effect.ending)

def Condition.holds (status : Nat) : Condition → Bool
  | .always => true
  | .ifDone => status == 0
  | .ifFailed => status != 0

/-- The machine after commands, and how they end. -/
def State.runAll (state : State) : List (Condition × Command) → Ending × Machine
  | [] => (.exit state.status, state.machine)
  | (condition, command) :: rest =>
      if condition.holds state.status then
        match state.run command with
        | (state, some ending) => (ending, state.machine)
        | (state, none) => state.runAll rest
      else
        state.runAll rest

/-- The exit code for a script that cannot be read. -/
def unreadableScript : Nat := 2

/-- The machine after a script, and how it ends. The script leaves the machine in the folder where
it was. -/
def runScript (machine : Machine) (script : String) (arguments : List String) :
    Ending × Machine :=
  match commands? script with
  | none => (.exit unreadableScript, machine)
  | some commands =>
      let (ending, after) := State.runAll ⟨machine, arguments, [], 0⟩ commands
      (ending, { after with here := machine.here })

/-- The machine after the shell has run, started under a name with arguments. A script is given
after the option for it; without any there is nothing to do, as nothing stands on the standard
input. -/
def runShell (machine : Machine) (name : String) : List String → Ending × Machine
  | "-c" :: script :: [] => runScript machine script [name]
  | "-c" :: script :: arguments => runScript machine script arguments
  | [] => (.exit 0, machine)
  | path :: arguments =>
      match machine.readText path with
      | .ok script => runScript machine script (path :: arguments)
      | .error _ => (.exit unreadableScript, machine)

end Polyview.Shell
