/-!
# The shortest decimal of a floating-point number

A finite floating-point number is written with the fewest decimal digits that still tell it from its
neighbours. The number is decoded into an integer times a power of two, which leaves only integer
arithmetic: on each decimal grid, from coarse to fine, the two grid points around the number are
tried, and the first grid with a point nearer to this number than to any other wins.
-/

namespace Polyview.Decimal

/-- A finite number `significand * 2 ^ exponent`. -/
structure Binary where
  significand : Nat
  exponent : Int
  deriving DecidableEq, Repr

def Binary.ofFloat (number : Float) : Binary :=
  let bits : Nat := number.toBits.toNat
  let field : Nat := bits / Nat.pow 2 52 % Nat.pow 2 11
  let fraction : Nat := bits % Nat.pow 2 52
  if field = 0 then ⟨fraction, -1074⟩ else ⟨fraction + Nat.pow 2 52, (field : Int) - 1075⟩

def isNegative (number : Float) : Bool := number.toBits.toNat / Nat.pow 2 63 == 1

/-- The numbers nearer to a given number than to any other, as fractions over one denominator. Ends
belong to the interval of a number with an even significand. -/
structure Interval where
  low : Nat
  value : Nat
  high : Nat
  denominator : Nat
  closed : Bool

/-- The interval of a number. Below a power of two the neighbours are twice as near. -/
def Binary.interval (number : Binary) : Interval :=
  let low :=
    if number.significand = Nat.pow 2 52 ∧ -1074 < number.exponent then
      4 * number.significand - 1
    else
      4 * number.significand - 2
  let scale := Nat.pow 2 (number.exponent - 2).toNat
  { low := low * scale
    value := 4 * number.significand * scale
    high := (4 * number.significand + 2) * scale
    denominator := Nat.pow 2 (2 - number.exponent).toNat
    closed := number.significand % 2 == 0 }

/-- Whether `digits * 10 ^ power` lies in an interval. -/
def Interval.holds (interval : Interval) (digits : Nat) (power : Int) : Bool :=
  let point := digits * Nat.pow 10 power.toNat * interval.denominator
  let low := interval.low * Nat.pow 10 (-power).toNat
  let high := interval.high * Nat.pow 10 (-power).toNat
  if interval.closed then low ≤ point && point ≤ high else low < point && point < high

/-- The distance from `digits * 10 ^ power` to the value of an interval, up to a common factor. -/
def Interval.distance (interval : Interval) (digits : Nat) (power : Int) : Nat :=
  let point := digits * Nat.pow 10 power.toNat * interval.denominator
  let value := interval.value * Nat.pow 10 (-power).toNat
  (point - value) + (value - point)

/-- The digits of the point of one decimal grid that stands for an interval, if it has one. -/
def Interval.digitsOn? (interval : Interval) (power : Int) : Option Nat :=
  let below :=
    interval.value * Nat.pow 10 (-power).toNat /
      (interval.denominator * Nat.pow 10 power.toNat)
  let above := below + 1
  match interval.holds below power, interval.holds above power with
  | true, true =>
      if interval.distance below power ≤ interval.distance above power then some below
      else some above
  | true, false => some below
  | false, true => some above
  | false, false => none

/-- The first grid that has a point for an interval, from the grid of `10 ^ power` down. -/
def Interval.search (interval : Interval) : (steps : Nat) → (power : Int) → Nat × Int
  | 0, power => (0, power)
  | steps + 1, power =>
      match interval.digitsOn? power with
      | some digits =>
          if digits = 0 then interval.search steps (power - 1) else (digits, power)
      | none => interval.search steps (power - 1)

/-- The digits and the power of ten of a positive number's shortest decimal. -/
def shortest (number : Binary) : Nat × Int := number.interval.search 640 310

def zeros (count : Nat) : String := String.ofList (List.replicate count '0')

/-- A positive number's shortest decimal as text: positional from `0.00001` up to sixteen digits
before the point, and with an exponent elsewhere. -/
def magnitudeText (number : Binary) : String :=
  let (digits, power) := shortest number
  let text := Nat.repr digits
  let size : Int := (text.length : Int) + power
  if 0 ≤ power ∧ size ≤ 16 then
    text ++ zeros power.toNat ++ ".0"
  else if 0 < size ∧ size ≤ 16 then
    String.ofList (text.toList.take size.toNat) ++ "." ++
      String.ofList (text.toList.drop size.toNat)
  else if -5 < size ∧ size ≤ 0 then
    "0." ++ zeros (-size).toNat ++ text
  else
    String.ofList (text.toList.take 1) ++ (if text.length = 1 then "" else ".") ++
      String.ofList (text.toList.drop 1) ++ "e" ++ toString (size - 1)

/-- The text of a finite number. -/
def floatText (number : Float) : String :=
  let magnitude := Binary.ofFloat number
  (if isNegative number then "-" else "") ++
    if magnitude.significand = 0 then "0.0" else magnitudeText magnitude

end Polyview.Decimal
