/-!
# Shell scripts

The part of the shell language that build recipes use: simple commands with quoting, parameters and
redirections, one after another or depending on whether the one before has succeeded.
-/

namespace Polyview.Shell

/-- A piece of a word. What is quoted is not cut at its blanks. -/
inductive Piece where
  | text (text : String)
  | parameter (quoted : Bool) (name : String)
  /-- The empty text between quotes, which makes a word of its own. -/
  | emptyQuotes
  deriving DecidableEq, Repr

/-- A word is made of pieces with nothing between them. -/
abbrev Word := List Piece

/-- Where a redirection leads. -/
inductive Redirection where
  | toFile (path : Word)
  | appendTo (path : Word)
  | fromFile (path : Word)
  /-- To where complaints go. -/
  | toComplaints
  /-- What goes to the complaints goes elsewhere. -/
  | ofComplaints
  deriving DecidableEq, Repr

/-- A command with its redirections. -/
structure Command where
  words : List Word
  redirections : List Redirection
  deriving DecidableEq, Repr

/-- When a command runs, depending on the one before it. -/
inductive Condition where
  | always
  | ifDone
  | ifFailed
  deriving DecidableEq, Repr

/-- The smallest parts of a script. -/
inductive Token where
  | word (word : Word)
  | join (condition : Condition)
  | output
  | append
  | input
  | outputToComplaints
  | complaints
  deriving DecidableEq, Repr

def isNameChar (c : Char) : Bool := c.isAlphanum || c == '_'

def isMark (c : Char) : Bool := c.isDigit || ['#', '?', '$', '@', '*', '!', '-'].contains c

/-- The piece after a dollar sign, and the rest. A dollar sign that names nothing stands for itself.
There is no piece where the language goes beyond this part of it. -/
def readParameter (quoted : Bool) (text : List Char) : Option (Piece × List Char) :=
  match text with
  | '(' :: _ => none
  | '{' :: rest =>
      let name := rest.takeWhile (fun c => isNameChar c || isMark c)
      match rest.dropWhile (fun c => isNameChar c || isMark c) with
      | '}' :: beyond =>
          if name.isEmpty then none else some (.parameter quoted (String.ofList name), beyond)
      | _ => none
  | c :: rest =>
      if isMark c then some (.parameter quoted (String.singleton c), rest)
      else if isNameChar c then
        some (.parameter quoted (String.ofList (text.takeWhile isNameChar)),
          text.dropWhile isNameChar)
      else some (.text "$", text)
  | [] => some (.text "$", [])

/-- The pieces up to a closing double quote, and the rest. -/
def readQuoted (fuel : Nat) (text : List Char) : Option (Word × List Char) :=
  match fuel, text with
  | _, '"' :: rest => some ([], rest)
  | fuel + 1, '$' :: rest => do
      let (piece, rest) ← readParameter true rest
      let (word, rest) ← readQuoted fuel rest
      return (piece :: word, rest)
  | fuel + 1, '\\' :: c :: rest => do
      let (word, beyond) ← readQuoted fuel rest
      if ['$', '\x60', '"', '\\'].contains c then
        return (.text (String.singleton c) :: word, beyond)
      else if c = '\n' then return (word, beyond)
      else return (.text (String.ofList ['\\', c]) :: word, beyond)
  | _, '\x60' :: _ => none
  | fuel + 1, c :: rest => do
      let (word, rest) ← readQuoted fuel rest
      return (.text (String.singleton c) :: word, rest)
  | _, _ => none

def endsWord (c : Char) : Bool :=
  [' ', '\t', '\n', ';', '&', '|', '<', '>', '(', ')'].contains c

def readWord (fuel : Nat) (text : List Char) : Option (Word × List Char) :=
  match fuel, text with
  | _, [] => some ([], [])
  | 0, _ => none
  | fuel + 1, '\x27' :: rest =>
      match rest.dropWhile (fun c => c != '\x27') with
      | [] => none
      | _ :: beyond => do
          let quoted := String.ofList (rest.takeWhile (fun c => c != '\x27'))
          let (word, beyond) ← readWord fuel beyond
          return ((if quoted.isEmpty then .emptyQuotes else .text quoted) :: word, beyond)
  | fuel + 1, '"' :: rest => do
      let (quoted, rest) ← readQuoted fuel rest
      let (word, rest) ← readWord fuel rest
      return ((if quoted.isEmpty then [.emptyQuotes] else quoted) ++ word, rest)
  | fuel + 1, '\\' :: c :: rest => do
      let (word, rest) ← readWord fuel rest
      return (if c = '\n' then word else .text (String.singleton c) :: word, rest)
  | fuel + 1, '$' :: rest => do
      let (piece, rest) ← readParameter false rest
      let (word, rest) ← readWord fuel rest
      return (piece :: word, rest)
  | fuel + 1, c :: rest =>
      if endsWord c then some ([], text)
      else if c = '\x60' then none
      else do
        let (word, rest) ← readWord fuel rest
        return (.text (String.singleton c) :: word, rest)

def readTokens (fuel : Nat) (text : List Char) : Option (List Token) :=
  match fuel, text with
  | _, [] => some []
  | 0, _ => none
  | fuel + 1, '#' :: rest => readTokens fuel (rest.dropWhile (fun c => c != '\n'))
  | fuel + 1, '&' :: '&' :: rest => (readTokens fuel rest).map (.join .ifDone :: ·)
  | fuel + 1, '|' :: '|' :: rest => (readTokens fuel rest).map (.join .ifFailed :: ·)
  | fuel + 1, '>' :: '>' :: rest => (readTokens fuel rest).map (.append :: ·)
  | fuel + 1, '>' :: '&' :: '2' :: rest =>
      (readTokens fuel rest).map (.outputToComplaints :: ·)
  | fuel + 1, '1' :: '>' :: '&' :: '2' :: rest =>
      (readTokens fuel rest).map (.outputToComplaints :: ·)
  | fuel + 1, '2' :: '>' :: '&' :: '1' :: rest => readTokens fuel rest
  | fuel + 1, '2' :: '>' :: rest => (readTokens fuel rest).map (.complaints :: ·)
  | fuel + 1, '>' :: rest => (readTokens fuel rest).map (.output :: ·)
  | fuel + 1, '<' :: rest => (readTokens fuel rest).map (.input :: ·)
  | fuel + 1, c :: rest =>
      if c = ' ' ∨ c = '\t' then readTokens fuel rest
      else if c = ';' ∨ c = '\n' ∨ c = '&' then (readTokens fuel rest).map (.join .always :: ·)
      else if endsWord c then none
      else do
        let (word, rest) ← readWord (text.length + 1) text
        let tokens ← readTokens fuel rest
        return .word word :: tokens

/-- The commands of tokens, of which the first one has begun. -/
def commandsFrom (condition : Condition) (begun : Command) :
    List Token → Option (List (Condition × Command))
  | [] => some [(condition, begun)]
  | .word word :: rest => commandsFrom condition { begun with words := begun.words ++ [word] } rest
  | .join next :: rest => do
      let commands ← commandsFrom next ⟨[], []⟩ rest
      return (condition, begun) :: commands
  | .outputToComplaints :: rest => redirected .toComplaints rest
  | .output :: .word path :: rest => redirected (.toFile path) rest
  | .append :: .word path :: rest => redirected (.appendTo path) rest
  | .input :: .word path :: rest => redirected (.fromFile path) rest
  | .complaints :: .word _ :: rest => redirected .ofComplaints rest
  | _ => none
where
  redirected (redirection : Redirection) (rest : List Token) :
      Option (List (Condition × Command)) :=
    commandsFrom condition { begun with redirections := begun.redirections ++ [redirection] } rest

def commands? (script : String) : Option (List (Condition × Command)) := do
  let tokens ← readTokens (script.length + 1) script.toList
  let commands ← commandsFrom .always ⟨[], []⟩ tokens
  return commands.filter (fun command => command.2 != ⟨[], []⟩)

end Polyview.Shell
