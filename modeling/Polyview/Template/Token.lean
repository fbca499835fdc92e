import Polyview.Template.Tag

/-!
# Tokens

A template is cut into plain text and tags. A backslash before double braces makes them plain text;
of several backslashes there, one is dropped and the braces start a tag. Around tags, blanks may
then be taken away: those that a tilde asks for, and the whole line of a tag that stands alone on
it.
-/

namespace Polyview.Template

/-- A tag with its place and the blanks around it. -/
structure PlacedTag where
  place : Place
  marked : MarkedTag
  /-- Only blanks stand before the tag on its line. -/
  startsLine : Bool
  /-- Only blanks stand after the tag on its line, and the line or the template ends. -/
  endsLine : Bool
  /-- The blanks directly before the tag on its line. -/
  indentation : List Char

/-- A piece of a template. -/
inductive Token where
  | text (text : List Char)
  | tag (tag : PlacedTag)

def isLineBlank (c : Char) : Bool := c == ' ' || c == '\t'

def isLineEnd (c : Char) : Bool := c == '\n' || c == '\r'

/-- Whether a line ends after nothing but blanks. The end of the whole template counts directly
only. -/
def endsEmpty (text : List Char) : Bool :=
  text.isEmpty || ((text.dropWhile isLineBlank).head?.map isLineEnd).getD false

/-- Whether a text that is given backwards ends in a line with nothing but blanks. -/
def startsEmpty (before : List Char) : Bool :=
  match before.dropWhile isLineBlank with
  | [] => true
  | c :: _ => isLineEnd c

/-- A text token, unless the text is empty. The text is given backwards. -/
def textToken (known : List Char) : List Token :=
  if known.isEmpty then [] else [.text known.reverse]

/-- The tokens of a text that follows `before`. Both `before` and the plain text `known` that was
read since the last tag are given backwards. -/
def tokensFrom (fuel : Nat) (place : Place) (before known : List Char) (text : List Char) :
    Option (List Token) :=
  match fuel, text with
  | _, [] => some (textToken known)
  | 0, _ => none
  | fuel + 1, '\\' :: rest =>
      let slashes := rest.takeWhile (fun c => c == '\\')
      let beyond := rest.dropWhile (fun c => c == '\\')
      let count := slashes.length + 1
      let next : Place := ⟨place.line, place.column + count⟩
      if !(['{', '{'].isPrefixOf beyond) then
        tokensFrom fuel next (slashes ++ '\\' :: before) (slashes ++ '\\' :: known) beyond
      else if slashes.isEmpty then
        let braces : List Char :=
          if ['{', '{', '{', '{'].isPrefixOf beyond then ['{', '{', '{', '{'] else ['{', '{']
        tokensFrom fuel ⟨next.line, next.column + braces.length⟩ (braces ++ '\\' :: before)
          (braces ++ known) (beyond.drop braces.length)
      else
        tokensFrom fuel next (slashes ++ '\\' :: before) (slashes ++ known) beyond
  | fuel + 1, c :: rest =>
      if ['{', '{'].isPrefixOf (c :: rest) then do
        let (marked, beyond) ← readTag (c :: rest)
        let source := (c :: rest).take (rest.length + 1 - beyond.length)
        let tag : PlacedTag :=
          { place := place
            marked := marked
            startsLine := startsEmpty before
            endsLine := endsEmpty beyond
            indentation := before.takeWhile isLineBlank }
        let tokens ←
          tokensFrom fuel (source.foldl Place.after place) (source.reverse ++ before) [] beyond
        return textToken known ++ .tag tag :: tokens
      else
        tokensFrom fuel (place.after c) (c :: before) (c :: known) rest

/-- The tokens of a template. -/
def tokens? (text : List Char) : Option (List Token) :=
  tokensFrom (text.length + 1) ⟨1, 1⟩ [] [] text

/-- What a tag does to the text around it. -/
structure Trimming where
  /-- Take away all blanks before the tag. -/
  before : Bool
  /-- Take away the blanks before the tag on its line. -/
  lineBefore : Bool
  /-- Take away all blanks after the tag. Unset for a tag that leaves this as it was. -/
  after : Option Bool
  /-- Take away what is left of the line of the tag, with the line's end. -/
  lineAfter : Bool

/-- What a tag does to the text around it. Tags that put something out stay in their lines. -/
def PlacedTag.trimming (tag : PlacedTag) : Trimming :=
  let alone := tag.startsLine && tag.endsLine
  match tag.marked.tag with
  | .output _ | .helper _ => ⟨tag.marked.trimsBefore, false, some tag.marked.trimsAfter, false⟩
  | .inclusion .. => ⟨tag.marked.trimsBefore, false, some tag.marked.trimsAfter, alone⟩
  | .comment =>
      ⟨tag.marked.trimsBefore, alone,
        if tag.marked.trimsAfter then some true else none, alone⟩
  | .opening .. | .otherwise | .otherwiseCall .. | .closing _ | .raw .. =>
      ⟨tag.marked.trimsBefore, alone, some tag.marked.trimsAfter, alone⟩

def dropLineEnd : List Char → List Char
  | '\r' :: '\n' :: rest => rest
  | '\n' :: rest => rest
  | text => text

def trimmedStart (all line : Bool) (text : List Char) : List Char :=
  if all then Text.trimStart text
  else if line then dropLineEnd (text.dropWhile isLineBlank)
  else text

def trimmedEnd (trimming : Trimming) (text : List Char) : List Char :=
  let text := if trimming.before then Text.trimEnd text else text
  if trimming.lineBefore then (text.reverse.dropWhile isLineBlank).reverse else text

/-- The tokens with blanks taken away around tags, where `all` and `line` say what the tags before
them take away at the start. -/
def trimTokens (all line : Bool) : List Token → List Token
  | [] => []
  | .text text :: rest =>
      let text := trimmedStart all line text
      let text :=
        match rest with
        | .tag tag :: _ => trimmedEnd tag.trimming text
        | _ => text
      .text text :: trimTokens all false rest
  | .tag tag :: rest =>
      let trimming := tag.trimming
      .tag tag :: trimTokens (trimming.after.getD all) trimming.lineAfter rest

end Polyview.Template
