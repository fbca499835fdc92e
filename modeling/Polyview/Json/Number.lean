import Polyview.Json.Fault

/-!
# Numbers in JSON

An integer of at most sixty-four bits keeps its value. Any other number is read as a floating-point
number: as many leading digits as fit into sixty-four bits are kept, and the rest only moves the
point.
-/

namespace Polyview.Json

/-- A number as it was read. -/
inductive Number where
  | natural (value : Nat)
  /-- A negative integer, by its magnitude. -/
  | negative (value : Nat)
  | floating (value : Float)

/-- Whether two numbers were read alike. An integer differs from a floating-point number. -/
def Number.same : Number → Number → Bool
  | .natural first, .natural second => first == second
  | .negative first, .negative second => first == second
  | .floating first, .floating second => first == second
  | _, _ => false

def Number.found : Number → Found
  | .natural value => .natural value
  | .negative value => .negative value
  | .floating value => .floating value

/-- The leading digits of a number and the power of ten that they are to be multiplied by. -/
structure Magnitude where
  significand : Nat
  exponent : Int
  /-- Whether a digit has been left out. -/
  full : Bool

namespace Magnitude

def digitValue (c : Char) : Nat := c.toNat - 48

/-- A magnitude with one more digit before the point. -/
def withWhole (magnitude : Magnitude) (c : Char) : Magnitude :=
  let significand := magnitude.significand * 10 + digitValue c
  if magnitude.full ∨ Nat.pow 2 64 ≤ significand then
    { magnitude with exponent := magnitude.exponent + 1, full := true }
  else
    { magnitude with significand := significand }

/-- A magnitude with one more digit after the point. The first digit that does not fit ends the
digits that count. -/
def withFraction (magnitude : Magnitude) (c : Char) : Magnitude :=
  let significand := magnitude.significand * 10 + digitValue c
  if magnitude.full ∨ Nat.pow 2 64 ≤ significand then
    { magnitude with full := true }
  else
    { magnitude with significand := significand, exponent := magnitude.exponent - 1 }

def powerOfTen (exponent : Nat) : Float := Float.ofScientific 1 false exponent

/-- A magnitude scaled by a power of ten, in steps that the range of exponents allows. There is no
value if it lies beyond that range. -/
def scaled? : (steps : Nat) → Float → Int → Option Float
  | 0, value, _ => some value
  | steps + 1, value, exponent =>
      if exponent.natAbs ≤ 308 then
        if 0 ≤ exponent then
          let product := value * powerOfTen exponent.toNat
          if product.isInf then none else some product
        else
          some (value / powerOfTen exponent.natAbs)
      else if value == 0.0 then some value
      else if 0 ≤ exponent then none
      else scaled? steps (value / powerOfTen 308) (exponent + 308)

def toFloat? (magnitude : Magnitude) : Option Float :=
  scaled? 8 (Float.ofNat magnitude.significand) magnitude.exponent

end Magnitude

/-- A magnitude with its sign, or the fault of being out of range at the number's end. -/
def floatOf (isNegative : Bool) (magnitude : Magnitude) (cursor : Cursor) :
    Except Fault (Number × Cursor) :=
  match magnitude.toFloat? with
  | some value => .ok (.floating (if isNegative then -value else value), cursor)
  | none => .error ⟨.numberOutOfRange, cursor.position⟩

def digitsAt (cursor : Cursor) : List Char := cursor.rest.takeWhile (fun c => c.isDigit)

/-- Exponents above this bound are not told apart. -/
def largestExponent : Nat := Nat.pow 2 31 - 1

/-- How many digits of an exponent fit under the bound. -/
def fittingDigits (value : Nat) : List Char → Nat
  | [] => 0
  | c :: rest =>
      let next := value * 10 + Magnitude.digitValue c
      if largestExponent < next then 0 else 1 + fittingDigits next rest

def decimalValue (digits : List Char) : Nat :=
  digits.foldl (fun value c => value * 10 + Magnitude.digitValue c) 0

/-- The exponent after its letter, and the number that it completes. -/
def readExponent (isNegative : Bool) (magnitude : Magnitude) (cursor : Cursor) :
    Except Fault (Number × Cursor) :=
  let lowers := cursor.rest.head? == some '-'
  let cursor := if lowers || cursor.rest.head? == some '+' then cursor.skip 1 else cursor
  let digits := digitsAt cursor
  if cursor.rest.isEmpty then
    .error ⟨.endInValue, cursor.position⟩
  else if digits.isEmpty then
    .error ⟨.invalidNumber, cursor.ahead⟩
  else
    let fitting := fittingDigits 0 digits
    if fitting < digits.length then
      if magnitude.significand ≠ 0 ∧ !lowers then
        .error ⟨.numberOutOfRange, (cursor.skip (fitting + 1)).position⟩
      else
        .ok (.floating (if isNegative then -0.0 else 0.0), cursor.skip digits.length)
    else
      let power : Int := decimalValue digits
      let exponent :=
        if lowers then magnitude.exponent - power else magnitude.exponent + power
      floatOf isNegative { magnitude with exponent := exponent } (cursor.skip digits.length)

/-- The digits after a point, and the number that they complete. -/
def readFraction (isNegative : Bool) (magnitude : Magnitude) (cursor : Cursor) :
    Except Fault (Number × Cursor) :=
  let digits := digitsAt cursor
  let after := cursor.skip digits.length
  if digits.isEmpty then
    .error (if cursor.rest.isEmpty then ⟨.endInValue, cursor.position⟩
      else ⟨.invalidNumber, cursor.ahead⟩)
  else
    let magnitude := digits.foldl Magnitude.withFraction { magnitude with full := false }
    if after.rest.head? = some 'e' ∨ after.rest.head? = some 'E' then
      readExponent isNegative magnitude (after.skip 1)
    else
      floatOf isNegative magnitude after

def readAfterWhole (isNegative : Bool) (magnitude : Magnitude) (cursor : Cursor) :
    Except Fault (Number × Cursor) :=
  if cursor.rest.head? = some '.' then
    readFraction isNegative magnitude (cursor.skip 1)
  else if cursor.rest.head? = some 'e' ∨ cursor.rest.head? = some 'E' then
    readExponent isNegative magnitude (cursor.skip 1)
  else if magnitude.full then
    floatOf isNegative magnitude cursor
  else if !isNegative then
    .ok (.natural magnitude.significand, cursor)
  else if magnitude.significand = 0 ∨ Nat.pow 2 63 < magnitude.significand then
    floatOf isNegative magnitude cursor
  else
    .ok (.negative magnitude.significand, cursor)

/-- The number at a cursor, whose minus sign, if it has one, has been read. -/
def readNumber (isNegative : Bool) (cursor : Cursor) : Except Fault (Number × Cursor) :=
  let digits := digitsAt cursor
  match digits with
  | [] =>
      .error (if cursor.rest.isEmpty then ⟨.endInValue, cursor.position⟩
        else ⟨.invalidNumber, cursor.ahead⟩)
  | '0' :: _ :: _ => .error ⟨.invalidNumber, (cursor.skip 1).ahead⟩
  | digits =>
      readAfterWhole isNegative (digits.foldl Magnitude.withWhole ⟨0, 0, false⟩)
        (cursor.skip digits.length)

/-- What follows the exponent of a number that nobody needs. -/
def skipExponent (cursor : Cursor) : Except Fault Cursor :=
  let signed := cursor.rest.head? == some '-' || cursor.rest.head? == some '+'
  let cursor := if signed then cursor.skip 1 else cursor
  let digits := digitsAt cursor
  if digits.isEmpty then .error ⟨.invalidNumber, cursor.ahead⟩ else .ok (cursor.skip digits.length)

/-- What follows a number that nobody needs, whose minus sign has been read. Its size is not
looked at. -/
def skipNumber (cursor : Cursor) : Except Fault Cursor :=
  let digits := digitsAt cursor
  let after := cursor.skip digits.length
  match digits with
  | [] => .error ⟨.invalidNumber, cursor.ahead⟩
  | '0' :: _ :: _ => .error ⟨.invalidNumber, (cursor.skip 1).ahead⟩
  | _ =>
      if after.rest.head? = some '.' then
        let fraction := digitsAt (after.skip 1)
        let beyond := (after.skip 1).skip fraction.length
        if fraction.isEmpty then
          .error ⟨.invalidNumber, (after.skip 1).ahead⟩
        else if beyond.rest.head? = some 'e' ∨ beyond.rest.head? = some 'E' then
          skipExponent (beyond.skip 1)
        else
          .ok beyond
      else if after.rest.head? = some 'e' ∨ after.rest.head? = some 'E' then
        skipExponent (after.skip 1)
      else
        .ok after

end Polyview.Json
