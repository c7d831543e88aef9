import SlotDispatch.Decimal.Integer
import SlotDispatch.Text.Property

/-!
# The limit of the heap

The limit is given on the command line, or else by the environment variable `VTLAB_HEAP_LIMIT`. If
it is given by neither, there is none. Blanks around the value of the variable do not matter.
-/

namespace SlotDispatch

/-- The value of the environment variable is not a number of bytes. -/
structure LimitFault where
  /-- The value, as it is. -/
  raw : String
  /-- What is wrong with it. -/
  cause : Decimal.DigitFault
deriving DecidableEq

/-- The fault in words. The value is quoted with its blanks. -/
def LimitFault.message (fault : LimitFault) : String :=
  "VTLAB_HEAP_LIMIT must be a number of bytes (got `" ++ fault.raw ++ "')"

/-- The limit, given what the command line and the environment say. The command line counts, and
    then the environment is not looked at. -/
def resolveLimit (flag : Option UInt64) (environment : Option String) :
    Except LimitFault (Option UInt64) :=
  match flag, environment with
  | some limit, _ => .ok (some limit)
  | none, none => .ok none
  | none, some raw =>
    match Decimal.readWord (Text.trim raw.toList) with
    | .ok limit => .ok (some limit)
    | .error cause => .error ⟨raw, cause⟩

end SlotDispatch
