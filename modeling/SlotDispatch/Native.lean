import SlotDispatch.Decimal.Integer

/-!
# Native routines

Two things that are computed without any class: the sum of 32-bit integers, in 32 bits, so that a
sum that is too large or too small wraps around (`Native.total`), and the message that tells the
time, with at least two digits for the hour, the minute and the second (`Native.Clock.message`).
-/

namespace SlotDispatch.Native

/-- The sum of some integers. -/
def total (items : List Int32) : Int32 := items.foldl (· + ·) 0

/-- The integers from 0 to 9. -/
def sample : List Int32 := (List.range 10).map Int32.ofNat

/-- What a clock shows. -/
structure Clock where
  /-- The hour. -/
  hour : UInt32
  /-- The minute. -/
  minute : UInt32
  /-- The second. -/
  second : UInt32
  /-- The full date and time in the form in which they are noted. -/
  stamp : String

/-- One field of the time. -/
def Clock.field (value : UInt32) : List Char := Decimal.padded 2 value.toNat

/-- The message for the time that a clock shows. -/
def Clock.message (clock : Clock) : String :=
  "The current time is: " ++ String.ofList
    (field clock.hour ++ ':' :: field clock.minute ++ ':' :: field clock.second) ++ ".\n"

end SlotDispatch.Native
