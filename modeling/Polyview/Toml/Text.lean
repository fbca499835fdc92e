/-!
# TOML texts

Texts stand between double quotes, where a backslash starts an escape, or between single quotes,
where every character stands for itself. Between three quotes they may have several lines.
-/

namespace Polyview.Toml

def isBlank (c : Char) : Bool := c == ' ' || c == '\t'

def skipBlanks (text : List Char) : List Char := text.dropWhile isBlank

/-- A character that may stand for itself: no control character but the tab. -/
def isPlain (c : Char) : Bool := c == '\t' || (0x20 ≤ c.toNat && c.toNat != 0x7F)

def afterLineEnd? : List Char → Option (List Char)
  | '\n' :: rest => some rest
  | '\r' :: '\n' :: rest => some rest
  | _ => none

def hexValue? (c : Char) : Option Nat :=
  if c.isDigit then some (c.toNat - 48)
  else if 'a' ≤ c ∧ c ≤ 'f' then some (c.toNat - 87)
  else if 'A' ≤ c ∧ c ≤ 'F' then some (c.toNat - 55)
  else none

/-- The character with a hexadecimal number, if there is such a character. -/
def hexChar? (digits : List Char) : Option Char := do
  let values ← digits.mapM hexValue?
  let number := values.foldl (fun number value => 16 * number + value) 0
  if number.isValidChar then some (Char.ofNat number) else none

/-- The character of an escape that is a single letter or mark. -/
def shortEscape? : Char → Option Char
  | 'b' => some '\x08'
  | 't' => some '\t'
  | 'n' => some '\n'
  | 'f' => some '\x0c'
  | 'r' => some '\r'
  | '"' => some '"'
  | '\\' => some '\\'
  | _ => none

/-- The character of an escape, after its backslash, and the rest. -/
def readEscape? : List Char → Option (Char × List Char)
  | 'u' :: a :: b :: c :: d :: rest => (hexChar? [a, b, c, d]).map (fun char => (char, rest))
  | 'U' :: a :: b :: c :: d :: e :: f :: g :: h :: rest =>
      (hexChar? [a, b, c, d, e, f, g, h]).map (fun char => (char, rest))
  | c :: rest => (shortEscape? c).map (fun char => (char, rest))
  | [] => none

/-- A text up to its closing double quote, and the rest. Each step takes at least one character. -/
def readBasic (fuel : Nat) (text : List Char) : Option (List Char × List Char) :=
  match fuel, text with
  | _, '"' :: rest => some ([], rest)
  | fuel + 1, '\\' :: rest => do
      let (c, rest) ← readEscape? rest
      let (body, rest) ← readBasic fuel rest
      return (c :: body, rest)
  | fuel + 1, c :: rest =>
      if isPlain c then do
        let (body, rest) ← readBasic fuel rest
        return (c :: body, rest)
      else
        none
  | _, _ => none

/-- A text up to its closing single quote, and the rest. -/
def readLiteral : List Char → Option (List Char × List Char)
  | [] => none
  | c :: rest =>
      if c = '\x27' then some ([], rest)
      else if isPlain c then do
        let (body, rest) ← readLiteral rest
        return (c :: body, rest)
      else none

/-- The quotes that belong to a text with several lines at its end, and the rest: of up to five
quotes the last three end it. -/
def closing? (quote : Char) (text : List Char) : Option (List Char × List Char) :=
  let count := min (text.takeWhile (fun c => c == quote)).length 5
  if count < 3 then none else some (List.replicate (count - 3) quote, text.drop count)

/-- What follows a backslash at the end of a line: the lines below begin with their first character
that is no blank. -/
def afterFolding? (text : List Char) : Option (List Char) :=
  (afterLineEnd? (skipBlanks text)).map skipLines
where
  /-- A text without blanks and line ends at its start. -/
  skipLines : List Char → List Char
    | [] => []
    | '\r' :: '\n' :: rest => skipLines rest
    | c :: rest => if isBlank c || c == '\n' then skipLines rest else c :: rest

/-- A text with several lines up to its three closing quotes, and the rest. -/
def readLines (quote : Char) (escapes : Bool) (fuel : Nat) (text : List Char) :
    Option (List Char × List Char) :=
  match fuel with
  | 0 => none
  | fuel + 1 =>
      match closing? quote text, afterLineEnd? text, text with
      | some result, _, _ => some result
      | none, some rest, _ => do
          let (body, rest) ← readLines quote escapes fuel rest
          return ('\n' :: body, rest)
      | none, none, c :: rest =>
          if escapes && c == '\\' then
            match afterFolding? rest with
            | some rest => readLines quote escapes fuel rest
            | none => do
                let (c, rest) ← readEscape? rest
                let (body, rest) ← readLines quote escapes fuel rest
                return (c :: body, rest)
          else if isPlain c then do
            let (body, rest) ← readLines quote escapes fuel rest
            return (c :: body, rest)
          else
            none
      | none, none, [] => none

/-- A text on one line, and the rest. There is nothing if it does not start with a quote. -/
def readLineText? (text : List Char) : Option (List Char × List Char) :=
  match text with
  | '"' :: rest => readBasic rest.length rest
  | '\x27' :: rest => readLiteral rest
  | _ => none

/-- A text with several lines, after its opening quotes. A line end directly after them does not
count. -/
def readTextLines (quote : Char) (escapes : Bool) (text : List Char) :
    Option (List Char × List Char) :=
  let text := (afterLineEnd? text).getD text
  readLines quote escapes (text.length + 1) text

def readText? (text : List Char) : Option (List Char × List Char) :=
  match text with
  | '"' :: '"' :: '"' :: rest => readTextLines '"' true rest
  | '\x27' :: '\x27' :: '\x27' :: rest => readTextLines '\x27' false rest
  | text => readLineText? text

end Polyview.Toml
