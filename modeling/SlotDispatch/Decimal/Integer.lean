/-!
# Whole numbers in decimal

Whole numbers are written with a minus sign if they are negative, without leading zeros, or with
leading zeros up to a given width.

Only numbers of a fixed width are read: a 64-bit natural number from digits with an optional plus
sign in front, a 32-bit integer from digits with an optional sign. Zeros may come first. What is
wrong with a text is the first thing that is met from left to right.
-/

namespace SlotDispatch.Decimal

/-- The text of a whole number. -/
def integerText : Int → List Char
  | .ofNat n => Nat.toDigits 10 n
  | .negSucc n => '-' :: Nat.toDigits 10 (n + 1)

/-- The digits of a natural number, with zeros in front up to a width. -/
def padded (width : Nat) (n : Nat) : List Char :=
  let digits := Nat.toDigits 10 n
  List.replicate (width - digits.length) '0' ++ digits

/-- What is wrong with a number. -/
inductive DigitFault where
  /-- There is nothing. -/
  | empty
  /-- Something is not a digit, or there is only a sign. -/
  | invalidDigit
  /-- The digits up to here are too large already. -/
  | tooLarge
deriving DecidableEq

/-- The fault in words. -/
def DigitFault.message : DigitFault → String
  | .empty => "cannot parse integer from empty string"
  | .invalidDigit => "invalid digit found in string"
  | .tooLarge => "number too large to fit in target type"

/-- Reads digits, at least one, whose value is below a bound. -/
def readDigits (bound : Nat) (cs : List Char) : Except DigitFault Nat :=
  let digits := cs.takeWhile Char.isDigit
  let value := Nat.ofDigitChars 10 digits 0
  if cs = [] then .error .invalidDigit
  else if bound ≤ value then .error .tooLarge
  else if digits.length < cs.length then .error .invalidDigit
  else .ok value

/-- The characters without a plus sign in front. -/
def dropPlus : List Char → List Char
  | '+' :: cs => cs
  | cs => cs

/-- Reads a 64-bit natural number. -/
def readWord (cs : List Char) : Except DigitFault UInt64 :=
  if cs = [] then .error .empty
  else
    match readDigits UInt64.size (dropPlus cs) with
    | .error fault => .error fault
    | .ok value => .ok (UInt64.ofNat value)

/-- Reads a 32-bit integer. -/
def readInteger (cs : List Char) : Except DigitFault Int32 :=
  match cs with
  | [] => .error .empty
  | '-' :: digits =>
    match readDigits 0x80000001 digits with
    | .error fault => .error fault
    | .ok value => .ok (Int32.ofInt (-(value : Int)))
  | cs =>
    match readDigits 0x80000000 (dropPlus cs) with
    | .error fault => .error fault
    | .ok value => .ok (Int32.ofInt value)

end SlotDispatch.Decimal
