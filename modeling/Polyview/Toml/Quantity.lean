/-!
# Numbers, dates and times in TOML

Which texts are numbers, dates or times. Their values are not kept, but a number beyond the range of
its kind and a day that no calendar has are refused.
-/

namespace Polyview.Toml

/-- What follows a text of a certain form at the start of a text. -/
abbrev Form := List Char → Option (List Char)

/-- One form after another. -/
def Form.followedBy (first second : Form) : Form := fun text => (first text).bind second

/-- A form that may be missing. -/
def Form.optional (form : Form) : Form := fun text => some ((form text).getD text)

def oneChar (test : Char → Bool) : Form
  | [] => none
  | c :: rest => if test c then some rest else none

/-- Digits of a kind, with single low lines between them. -/
def digitsOf (isDigit : Char → Bool) : Form
  | [] => none
  | c :: rest => if isDigit c then some (more rest) else none
where
  more : List Char → List Char
    | '_' :: c :: rest => if isDigit c then more rest else '_' :: c :: rest
    | c :: rest => if isDigit c then more rest else c :: rest
    | [] => []

def isSign (c : Char) : Bool := c == '+' || c == '-'

/-- Decimal digits without a leading zero, unless there is only that digit. -/
def wholeDigits : Form
  | '0' :: rest => some rest
  | text => digitsOf Char.isDigit text

def takenBy (text rest : List Char) : List Char := text.take (text.length - rest.length)

/-- The value of digits to a base, without the low lines between them. -/
def valueOf (base : Nat) (digits : List Char) : Nat :=
  (digits.filter (fun c => c != '_')).foldl (fun value c => base * value + digit c) 0
where
  digit (c : Char) : Nat :=
    if c.isDigit then c.toNat - 48
    else if 'a' ≤ c then c.toNat - 87
    else c.toNat - 55

/-- An integer to a base after its mark, within the range of sixty-four bits. -/
def markedInteger (base : Nat) (isDigit : Char → Bool) : Form := fun text => do
  let rest ← digitsOf isDigit text
  if valueOf base (takenBy text rest) < Nat.pow 2 63 then some rest else none

/-- A decimal integer within the range of sixty-four bits. -/
def decimalInteger : Form := fun text => do
  let unsigned := ((oneChar isSign).optional text).getD text
  let rest ← wholeDigits unsigned
  let limit := if text.head? = some '-' then Nat.pow 2 63 + 1 else Nat.pow 2 63
  if valueOf 10 (takenBy unsigned rest) < limit then some rest else none

def isHexDigit (c : Char) : Bool := c.isDigit || ('a' ≤ c && c ≤ 'f') || ('A' ≤ c && c ≤ 'F')

def integer : Form
  | '0' :: 'x' :: rest => markedInteger 16 isHexDigit rest
  | '0' :: 'o' :: rest => markedInteger 8 (fun c => '0' ≤ c && c ≤ '7') rest
  | '0' :: 'b' :: rest => markedInteger 2 (fun c => c == '0' || c == '1') rest
  | text => decimalInteger text

def exponent : Form :=
  Form.followedBy (oneChar (fun c => c == 'e' || c == 'E'))
    ((oneChar isSign).optional.followedBy (digitsOf Char.isDigit))

def fraction : Form := Form.followedBy (oneChar (fun c => c == '.')) (digitsOf Char.isDigit)

/-- The digits of a decimal without their point, and the power of ten that they are to be multiplied
by. -/
def decimalOf (text : List Char) : Nat × Int :=
  let text := text.filter (fun c => c != '_')
  let whole := text.takeWhile Char.isDigit
  let rest := text.dropWhile Char.isDigit
  let (parts, rest) :=
    match rest with
    | '.' :: rest => (rest.takeWhile Char.isDigit, rest.dropWhile Char.isDigit)
    | rest => ([], rest)
  let power : Int :=
    match rest with
    | _ :: '-' :: digits => -(valueOf 10 digits : Int)
    | _ :: '+' :: digits => valueOf 10 digits
    | _ :: digits => valueOf 10 digits
    | [] => 0
  (valueOf 10 (whole ++ parts), power - parts.length)

/-- The middle between the largest floating-point number and the first power of two beyond their
range. -/
def floatLimit : Nat := (Nat.pow 2 54 - 1) * Nat.pow 2 970

/-- Whether a decimal is too large for a floating-point number, that is, not below the limit. -/
def isTooLarge (digits : Nat) (power : Int) : Bool :=
  if digits = 0 then false
  else if 400 < power then true
  else if power < 0 then floatLimit * Nat.pow 10 (-power).toNat ≤ digits
  else floatLimit ≤ digits * Nat.pow 10 power.toNat

/-- A number with a fraction or an exponent. A positive one must be within the range of
floating-point numbers. -/
def decimal : Form := fun text => do
  let unsigned := ((oneChar isSign).optional text).getD text
  let rest ← wholeDigits unsigned
  let rest ←
    match exponent rest with
    | some rest => some rest
    | none => (fraction rest).bind exponent.optional
  let (digits, power) := decimalOf (takenBy unsigned rest)
  if text.head? ≠ some '-' ∧ isTooLarge digits power then none else some rest

def specialNumber : Form :=
  (oneChar isSign).optional.followedBy fun
    | 'i' :: 'n' :: 'f' :: rest => some rest
    | 'n' :: 'a' :: 'n' :: rest => some rest
    | _ => none

/-- A number of as many digits as given, between two bounds. -/
def digitsBetween (count low high : Nat) (text : List Char) : Option (Nat × List Char) :=
  let digits := text.take count
  let value := valueOf 10 digits
  if digits.length = count ∧ digits.all Char.isDigit ∧ low ≤ value ∧ value ≤ high then
    some (value, text.drop count)
  else
    none

def daysIn (year month : Nat) : Nat :=
  if month = 2 then
    if year % 4 = 0 ∧ (year % 100 ≠ 0 ∨ year % 400 = 0) then 29 else 28
  else if [4, 6, 9, 11].contains month then 30
  else 31

def date : Form := fun text => do
  let (year, rest) ← digitsBetween 4 0 9999 text
  let rest ← oneChar (fun c => c == '-') rest
  let (month, rest) ← digitsBetween 2 1 12 rest
  let rest ← oneChar (fun c => c == '-') rest
  let (_, rest) ← digitsBetween 2 1 (daysIn year month) rest
  return rest

def time : Form := fun text => do
  let (_, rest) ← digitsBetween 2 0 23 text
  let rest ← oneChar (fun c => c == ':') rest
  let (_, rest) ← digitsBetween 2 0 59 rest
  let rest ← oneChar (fun c => c == ':') rest
  let (_, rest) ← digitsBetween 2 0 60 rest
  match rest with
  | '.' :: c :: beyond => if c.isDigit then return beyond.dropWhile Char.isDigit else none
  | '.' :: _ => none
  | rest => return rest

/-- The distance from the common time. -/
def offset : Form
  | [] => none
  | c :: rest =>
      if c = 'Z' ∨ c = 'z' then some rest
      else if isSign c then do
        let (_, rest) ← digitsBetween 2 0 23 rest
        let rest ← oneChar (fun c => c == ':') rest
        let (_, rest) ← digitsBetween 2 0 59 rest
        return rest
      else none

/-- A date, perhaps with a time of day, or a time of day alone. -/
def moment : Form := fun text =>
  match date text with
  | some rest =>
      let withTime := (oneChar (fun c => c == 'T' || c == 't' || c == ' ')).followedBy
        (time.followedBy offset.optional)
      withTime.optional rest
  | none => time text

/-- A number, a date or a time. -/
def quantity : Form := fun text =>
  moment text <|> decimal text <|> integer text <|> specialNumber text

end Polyview.Toml
