import Polyview.Json.Normal
import Polyview.Json.Reader
import Polyview.Template.Syntax
import Polyview.Text.Blank

/-!
# Tags

Reading what stands between double braces. Blanks may stand between the words of a tag; a tilde at
either end of a tag takes away the blanks outside that end.
-/

namespace Polyview.Template

open Json (Value)

/-- What a tag does. -/
inductive Tag where
  | output (head : Argument)
  | helper (call : Call)
  | opening (call : Call) (names : BlockNames)
  /-- The start of the inverse of a block. -/
  | otherwise
  /-- The start of the inverse of a block, which is a block itself. -/
  | otherwiseCall (call : Call) (names : BlockNames)
  | closing (name : String)
  | comment
  | inclusion (name : String) (arguments : List Argument) (options : List (String × Argument))
  /-- A block whose body is taken as it stands. -/
  | raw (call : Call) (names : BlockNames) (body : List Char)

/-- A tag and whether blanks before and after it are taken away. -/
structure MarkedTag where
  trimsBefore : Bool
  trimsAfter : Bool
  tag : Tag

/-- A reader that may fail, and otherwise leaves a rest. -/
abbrev Reader (α : Type) := List Char → Option (α × List Char)

def isTagBlank (c : Char) : Bool := c == ' ' || c == '\t' || c == '\n' || c == '\r'

def skipBlanks (text : List Char) : List Char := text.dropWhile isTagBlank

def after? (expected text : List Char) : Option (List Char) :=
  if expected.isPrefixOf text then some (text.drop expected.length) else none

def isSymbol (c : Char) : Bool := c.isAlphanum || c == '_' || c == '-' || c == '$' || 0x80 ≤ c.toNat

/-- A name that is not empty, of characters that satisfy a test. -/
def readRun (test : Char → Bool) : Reader String := fun text =>
  match text.takeWhile test with
  | [] => none
  | run => some (String.ofList run, text.dropWhile test)

def readIdentifier : Reader String := fun text =>
  match text with
  | [] => none
  | c :: _ => if isSymbol c then readRun (fun c => isSymbol c || c == '/') text else none

/-- One name of a path: plain, or anything between square brackets. -/
def readName : Reader String := fun text =>
  match text with
  | '[' :: rest =>
      match rest.dropWhile (fun c => c != ']') with
      | [] => none
      | _ :: beyond => some (String.ofList (rest.takeWhile (fun c => c != ']')), beyond)
  | text => readRun isSymbol text

def isPathSeparator (c : Char) : Bool := c == '.' || c == '/'

def readUps (fuel : Nat) (text : List Char) : Nat × List Char :=
  match fuel, text with
  | fuel + 1, '.' :: '.' :: c :: rest =>
      if isPathSeparator c then
        let (count, beyond) := readUps fuel rest
        (count + 1, beyond)
      else
        (0, text)
  | _, text => (0, text)

def readMoreNames (fuel : Nat) (text : List Char) : List String × List Char :=
  match fuel, text with
  | fuel + 1, c :: rest =>
      if isPathSeparator c then
        match readName rest with
        | some (name, beyond) =>
            let (names, beyond) := readMoreNames fuel beyond
            (name :: names, beyond)
        | none => ([], text)
      else
        ([], text)
  | _, text => ([], text)

/-- What follows `this` and a separator, or a point and a slash, with which a path may start. -/
def skipCurrent (text : List Char) : List Char :=
  match after? ['t', 'h', 'i', 's'] text, text with
  | some (c :: rest), _ => if isPathSeparator c then rest else text
  | _, '.' :: '/' :: rest => rest
  | _, text => text

def afterRoot? (text : List Char) : Option (List Char) := do
  match ← after? ['@', 'r', 'o', 'o', 't'] text with
  | c :: rest => if isPathSeparator c then some rest else none
  | [] => none

/-- A reference to a value. The name `this` stands for no step at all. -/
def readReference : Reader Reference := fun text => do
  let current := skipCurrent text
  let fromRoot := (afterRoot? current).isSome
  let rest := (afterRoot? current).getD current
  let isVariable := rest.head? == some '@'
  let rest := if isVariable then rest.drop 1 else rest
  let (level, rest) := readUps rest.length rest
  let (first, rest) ← readName rest
  let (more, rest) := readMoreNames rest.length rest
  let written := String.ofList (text.take (text.length - rest.length))
  let names := (first :: more).filter (fun name => name != "this")
  match isVariable && !fromRoot, names with
  | true, name :: _ => return (.variable level name written, rest)
  | _, names => return (.path fromRoot level names written, rest)

/-- The value of a JSON text that is used up by it. -/
def jsonValue? (text : List Char) : Option Value :=
  match Json.readValue Json.deepestNesting (.ofText text) with
  | .ok (value, cursor) => if cursor.rest.isEmpty then some value else none
  | .error _ => none

/-- The body of a literal up to its closing quote, and what follows that quote. -/
def readQuotedBody (quote : Char) : List Char → Option (List Char × List Char)
  | [] => none
  | c :: rest =>
      if c = quote then
        some ([], rest)
      else if c = '\\' then
        match rest with
        | [] => none
        | mark :: rest => do
            let (body, beyond) ← readQuotedBody quote rest
            return ('\\' :: mark :: body, beyond)
      else do
        let (body, beyond) ← readQuotedBody quote rest
        return (c :: body, beyond)

/-- The body of a single-quoted literal as that of a double-quoted one. -/
def requoted : List Char → List Char
  | '\\' :: '\x27' :: rest => '\x27' :: requoted rest
  | '"' :: rest => '\\' :: '"' :: requoted rest
  | c :: rest => c :: requoted rest
  | [] => []

/-- A number and what follows it, where no name goes on. -/
def readNumberText : Reader (List Char) := fun text =>
  let (sign, rest) := if text.head? = some '-' then (['-'], text.drop 1) else ([], text)
  let whole := rest.takeWhile Char.isDigit
  let rest := rest.dropWhile Char.isDigit
  let (point, rest) := if rest.head? = some '.' then (['.'], rest.drop 1) else ([], rest)
  let fraction := rest.takeWhile Char.isDigit
  let rest := rest.dropWhile Char.isDigit
  let (power, rest) :=
    match rest with
    | 'E' :: beyond =>
        let (minus, beyond) :=
          if beyond.head? = some '-' then (['-'], beyond.drop 1) else ([], beyond)
        let digits := beyond.takeWhile Char.isDigit
        if digits.isEmpty then ([], rest)
        else ('E' :: minus ++ digits, beyond.dropWhile Char.isDigit)
    | rest => ([], rest)
  if whole.isEmpty ∨ (rest.head?.map isSymbol).getD false then none
  else some (sign ++ whole ++ point ++ fraction ++ power, rest)

/-- A word that stands for a value, where no name goes on. -/
def readWordValue (word : List Char) (value : Value) : Reader Value := fun text => do
  let rest ← after? word text
  if (rest.head?.map isSymbol).getD false then none else some (value, rest)

/-- A literal value. The outer result says whether the text has the form of a literal, the inner one
whether that literal has a value. -/
def readLiteral (text : List Char) : Option (Option (Value × List Char)) :=
  match text with
  | '"' :: rest => do
      let (body, beyond) ← readQuotedBody '"' rest
      return (jsonValue? ('"' :: body ++ ['"'])).map (fun value => (value, beyond))
  | '\x27' :: rest => do
      let (body, beyond) ← readQuotedBody '\x27' rest
      return (jsonValue? ('"' :: requoted body ++ ['"'])).map (fun value => (value, beyond))
  | text =>
      if text.head? = some '[' ∨ text.head? = some '{' then
        match Json.readValue Json.deepestNesting (.ofText text) with
        | .ok (value, cursor) => some (some (value, cursor.rest))
        | .error _ => none
      else
        match readNumberText text with
        | some (number, rest) => some ((jsonValue? number).map (fun value => (value, rest)))
        | none =>
            match readWordValue ['n', 'u', 'l', 'l'] .null text <|>
                readWordValue ['t', 'r', 'u', 'e'] (.boolean true) text <|>
                readWordValue ['f', 'a', 'l', 's', 'e'] (.boolean false) text with
            | some result => some (some result)
            | none => none

/-- Whether a text starts with a word that cannot be an argument. -/
def startsWithKeyword (text : List Char) : Bool :=
  [['a', 's'], ['e', 'l', 's', 'e']].any fun word =>
    match after? word text with
    | some rest => !(rest.head?.map isSymbol).getD false
    | none => false

/-- The arguments of a tag, by place and by name. -/
structure ArgumentList where
  placed : List Argument
  named : List (String × Argument)

mutual

def readArgument (fuel : Nat) (text : List Char) : Option (Argument × List Char) :=
  match fuel with
  | 0 => none
  | fuel + 1 =>
      if startsWithKeyword text then
        none
      else
        match readLiteral text with
        | some (some (value, rest)) => some (.literal value.normal, rest)
        | some none => none
        | none =>
            match readReference text with
            | some (reference, rest) => some (.reference reference, rest)
            | none => do
                let (call, rest) ← readParenthesized fuel text
                return (.call call, rest)

def readParenthesized (fuel : Nat) (text : List Char) : Option (Call × List Char) :=
  match fuel, text with
  | fuel + 1, '(' :: text =>
      let text := skipBlanks text
      let withArguments : Option (Call × List Char) := do
        let (helper, rest) ← readIdentifier text
        let (arguments, rest) := readArguments fuel rest
        if arguments.placed.isEmpty && arguments.named.isEmpty then
          none
        else
          let rest ← after? [')'] (skipBlanks rest)
          return (.mk helper arguments.placed arguments.named, rest)
      withArguments <|> do
        let (reference, rest) ← readReference text
        let rest ← after? [')'] (skipBlanks rest)
        return (.mk reference.written [] [], rest)
  | _, _ => none

def readArguments (fuel : Nat) (text : List Char) : ArgumentList × List Char :=
  match fuel with
  | 0 => (⟨[], []⟩, text)
  | fuel + 1 =>
      let start := skipBlanks text
      let named : Option ((String × Argument) × List Char) := do
        let (name, rest) ← readIdentifier start
        let rest ← after? ['='] (skipBlanks rest)
        let (argument, rest) ← readArgument fuel (skipBlanks rest)
        return ((name, argument), rest)
      match named with
      | some (option, rest) =>
          let (arguments, rest) := readArguments fuel rest
          ({ arguments with named := option :: arguments.named }, rest)
      | none =>
          match readArgument fuel start with
          | some (argument, rest) =>
              let (arguments, rest) := readArguments fuel rest
              ({ arguments with placed := argument :: arguments.placed }, rest)
          | none => (⟨[], []⟩, text)

end

/-- Each step of reading a tag takes a character or goes one level down towards one. -/
def stepsFor (text : List Char) : Nat := 2 * text.length + 2

def readHelperCall : Reader Call := fun text => do
  let (helper, rest) ← readIdentifier text
  let (arguments, rest) := readArguments (stepsFor rest) rest
  if arguments.placed.isEmpty && arguments.named.isEmpty then
    none
  else
    return (.mk helper arguments.placed arguments.named, rest)

/-- A value to put out: a parenthesized call or a reference. -/
def readHead : Reader Argument := fun text =>
  match readParenthesized (stepsFor text) text with
  | some (call, rest) => some (.call call, rest)
  | none => do
      let (reference, rest) ← readReference text
      return (.reference reference, rest)

/-- The names that a block gives to its item, between vertical bars. -/
def readBlockNames (text : List Char) : Option (BlockNames × List Char) := do
  let rest ← after? ['a', 's'] (skipBlanks text)
  let rest ← after? ['|'] (skipBlanks rest)
  let (item, rest) ← readIdentifier (skipBlanks rest)
  match readIdentifier (skipBlanks rest) with
  | some (key, rest) => do
      let rest ← after? ['|'] (skipBlanks rest)
      return (.itemAndKey item key, rest)
  | none => do
      let rest ← after? ['|'] (skipBlanks rest)
      return (.item item, rest)

/-- A helper with any arguments and the names for its block. -/
def readBlockCall : Reader (Call × BlockNames) := fun text => do
  let (helper, rest) ← readIdentifier (skipBlanks text)
  let (arguments, rest) := readArguments (stepsFor rest) rest
  let (names, rest) := (readBlockNames rest).getD (.none, rest)
  return ((.mk helper arguments.placed arguments.named, names), rest)

/-- The end of a tag with the given braces, and whether a tilde stands before them. -/
def readEnd (braces : List Char) : Reader Bool := fun text =>
  let text := skipBlanks text
  match after? ['~'] text with
  | some rest => (after? braces (skipBlanks rest)).map (fun rest => (true, rest))
  | none => (after? braces text).map (fun rest => (false, rest))

def closingBraces : List Char := ['}', '}']

/-- A tag with the given content, up to its closing braces. -/
def readTagWith {α : Type} (braces : List Char) (trimsBefore : Bool) (content : Reader α)
    (tag : α → Tag) : Reader MarkedTag := fun text => do
  let (value, rest) ← content (skipBlanks text)
  let (trimsAfter, rest) ← readEnd braces rest
  return (⟨trimsBefore, trimsAfter, tag value⟩, rest)

/-- A value or a helper call, up to the closing braces. -/
def readExpression (braces : List Char) (trimsBefore : Bool) : Reader MarkedTag := fun text =>
  readTagWith braces trimsBefore readHelperCall .helper text <|>
    readTagWith braces trimsBefore readHead .output text

/-- An expression between triple braces whose inner pair stands inside the tildes. -/
def readInnerBraces (trimsBefore : Bool) : Reader MarkedTag := fun text => do
  let inner (content : Reader Tag) : Reader MarkedTag := fun text => do
    let (tag, rest) ← content (skipBlanks text)
    let rest ← after? ['}'] (skipBlanks rest)
    let (trimsAfter, rest) ← readEnd closingBraces rest
    return (⟨trimsBefore, trimsAfter, tag⟩, rest)
  inner (fun text => (readHelperCall text).map (fun (call, rest) => (.helper call, rest))) text <|>
    inner (fun text => (readHead text).map (fun (head, rest) => (.output head, rest))) text

/-- What follows the first place at which a text stands. -/
def afterFirst? (sought : List Char) : List Char → Option (List Char)
  | [] => none
  | c :: rest =>
      match after? sought (c :: rest) with
      | some beyond => some beyond
      | none => afterFirst? sought rest

/-- The end of a long comment, where a tilde may stand before the braces. -/
def longCommentEnd : List Char → Option (Bool × List Char)
  | [] => none
  | c :: rest =>
      match after? ['-', '-', '}', '}'] (c :: rest),
          after? ['-', '-', '~', '}', '}'] (c :: rest) with
      | some beyond, _ => some (false, beyond)
      | none, some beyond => some (true, beyond)
      | none, none => longCommentEnd rest

def readComment (trimsBefore : Bool) : Reader MarkedTag := fun text =>
  let long : Option (MarkedTag × List Char) := do
    let rest ← after? ['-', '-'] (skipBlanks text)
    let (trimsAfter, rest) ← longCommentEnd rest
    return (⟨trimsBefore, trimsAfter, .comment⟩, rest)
  long <|> do
    let rest ← afterFirst? closingBraces text
    return (⟨trimsBefore, false, .comment⟩, rest)

def afterInverseMark? (text : List Char) : Option (List Char) :=
  after? ['^'] text <|> after? ['e', 'l', 's', 'e'] text

def readInverse (trimsBefore : Bool) : Reader MarkedTag := fun text => do
  let rest ← afterInverseMark? text
  let plain : Option (MarkedTag × List Char) := do
    let (trimsAfter, rest) ← readEnd closingBraces rest
    return (⟨trimsBefore, trimsAfter, .otherwise⟩, rest)
  plain <|>
    readTagWith closingBraces trimsBefore readBlockCall
      (fun (call, names) => .otherwiseCall call names) rest

def readInclusion : Reader Tag := fun text => do
  let isPathSymbol (c : Char) : Bool := isSymbol c || isPathSeparator c
  let (name, rest) ← readRun isPathSymbol (skipBlanks text)
  let (arguments, rest) := readArguments (stepsFor rest) rest
  return (.inclusion name arguments.placed arguments.named, rest)

/-- The body of a raw block, with its escapes resolved, and the text from its closing tag on. -/
def rawBody : List Char → Option (List Char × List Char)
  | [] => none
  | c :: rest =>
      if (after? ['{', '{', '{', '{'] (c :: rest)).isSome then
        some ([], c :: rest)
      else do
        let (body, beyond) ← rawBody rest
        return (c :: body, beyond)

def readRaw : Reader MarkedTag := fun text => do
  let text := skipBlanks text
  let trimsBefore := text.head? == some '~'
  let text := if trimsBefore then text.drop 1 else text
  let ((call, names), rest) ← readBlockCall text
  let (_, rest) ← readEnd ['}', '}', '}', '}'] rest
  let (body, rest) ← rawBody rest
  let rest := skipBlanks (rest.drop 4)
  let rest := if rest.head? = some '~' then rest.drop 1 else rest
  let rest ← after? ['/'] (skipBlanks rest)
  let (name, rest) ← readIdentifier (skipBlanks rest)
  let (trimsAfter, rest) ← readEnd ['}', '}', '}', '}'] rest
  if name = call.helper then
    return (⟨trimsBefore, trimsAfter, .raw call names body⟩, rest)
  else
    none

/-- The tag that starts with the double braces of a text. -/
def readTag : Reader MarkedTag := fun text =>
  match text with
  | '{' :: '{' :: '{' :: '{' :: rest => readRaw rest
  | '{' :: '{' :: '{' :: rest =>
      let rest := skipBlanks rest
      let trimsBefore := rest.head? == some '~'
      readExpression ['}', '}', '}'] trimsBefore (if trimsBefore then rest.drop 1 else rest)
  | '{' :: '{' :: rest =>
      let rest := skipBlanks rest
      let trimsBefore := rest.head? == some '~'
      let rest := skipBlanks (if trimsBefore then rest.drop 1 else rest)
      match rest with
      | '{' :: rest => readInnerBraces trimsBefore rest
      | '&' :: rest => readTagWith closingBraces trimsBefore readHead .output rest
      | '#' :: rest =>
          readTagWith closingBraces trimsBefore readBlockCall
            (fun (call, names) => .opening call names) rest
      | '/' :: rest => readTagWith closingBraces trimsBefore readIdentifier .closing rest
      | '!' :: rest => readComment trimsBefore rest
      | '>' :: rest => readTagWith closingBraces trimsBefore readInclusion id rest
      | rest => readInverse trimsBefore rest <|> readExpression closingBraces trimsBefore rest
  | _ => none

end Polyview.Template
