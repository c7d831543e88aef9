import SlotDispatch.Decimal.Integer
import SlotDispatch.Decimal.Shortest

/-!
# JSON numbers

A JSON number is an integer if it is written without a point and an exponent and lies between
`-2 ^ 63` and `2 ^ 64 - 1`; otherwise, and if it is `-0`, it is a floating-point number.

A floating-point number is made from its digits in one pass: the digits are gathered into a 64-bit
significand as long as they fit. Of the rest, digits before the point count for the exponent, and
digits after it are dropped. Then the significand is rounded and multiplied or divided by a power of
ten (`Literal.float`).
-/

namespace SlotDispatch.Json

/-- A number as a JSON text means it. -/
inductive Number where
  /-- A whole number. -/
  | integer (value : Int)
  /-- A floating-point number, which is finite. -/
  | float (value : Float)

/-- A number as it is written. -/
structure Literal where
  /-- Whether a minus sign is in front. -/
  negative : Bool
  /-- The digits before the point, at least one. -/
  whole : List Char
  /-- The digits after the point, at least one if there is a point. -/
  fraction : Option (List Char)
  /-- The exponent, if there is one: whether it is negative, and its digits. -/
  exponent : Option (Bool × List Char)

namespace Literal

/-- Appends digits to a significand as long as it stays below `2 ^ 64`. Gives the significand and
    the digits that are left. -/
def gather (significand : Nat) : List Char → Nat × List Char
  | [] => (significand, [])
  | c :: cs =>
    let next := 10 * significand + (c.toNat - '0'.toNat)
    if next < UInt64.size then gather next cs else (significand, c :: cs)

/-- The power of ten nearest to `10 ^ k`. -/
def powerOfTen (k : Nat) : Float := Float.ofScientific 1 false k

/-- Divides by `10 ^ k`, in steps that a floating-point number can hold. -/
def shrink (value : Float) (k : Nat) : Float :=
  if k ≤ 308 then value / powerOfTen k
  else if value == 0 then value
  else shrink (value / powerOfTen 308) (k - 308)
termination_by k

/-- The number `significand * 10 ^ exponent`, unless it is too large. -/
def scale (significand : Nat) (exponent : Int) : Option Float :=
  let value := (UInt64.ofNat significand).toFloat
  if exponent < 0 then some (shrink value exponent.natAbs)
  else if exponent ≤ 308 then
    let scaled := value * powerOfTen exponent.toNat
    if scaled.isInf then none else some scaled
  else if value == 0 then some value
  else none

/-- The size of the number as a floating-point number, unless it is too large. An exponent of
    `2 ^ 31` or more is not looked at any further. -/
def float (literal : Literal) : Option Float :=
  let (gathered, shifted) := gather 0 literal.whole
  let digits := literal.fraction.getD []
  let (significand, dropped) := gather gathered digits
  let shift : Int := shifted.length - (digits.length - dropped.length : Nat)
  match literal.exponent with
  | none => scale significand shift
  | some (negative, digits) =>
    let exponent := Nat.ofDigitChars 10 digits 0
    if exponent < 0x80000000 then
      scale significand (if negative then shift - exponent else shift + exponent)
    else if significand ≠ 0 ∧ !negative then none
    else some 0

/-- The whole number, if it is written as one and neither too large nor `-0`. -/
def integer? (literal : Literal) : Option Int :=
  let value := Nat.ofDigitChars 10 literal.whole 0
  if literal.fraction.isSome ∨ literal.exponent.isSome then none
  else if literal.negative then
    if 0 < value ∧ value ≤ 0x8000000000000000 then some (-(value : Int)) else none
  else if value < UInt64.size then some (value : Int)
  else none

/-- The number that is meant, unless it is too large for a floating-point number. -/
def number? (literal : Literal) : Option Number :=
  match literal.integer? with
  | some value => some (.integer value)
  | none =>
    match literal.float with
    | none => none
    | some value => some (.float (if literal.negative then -value else value))

end Literal

/-- Floating-point numbers are written without an exponent from `1e-5` to below `1e16`. -/
def floatSpread : Decimal.Spread := ⟨-5, 15⟩

/-- The text of a number. -/
def Number.text : Number → List Char
  | .integer value => Decimal.integerText value
  | .float value => (floatSpread.text value).toList

end SlotDispatch.Json
