import SlotDispatch.ClassTable.Build
import SlotDispatch.Decimal.Integer

/-!
# Notes

What is noted along the way for people who want to follow what happens.
-/

namespace SlotDispatch

/-- A note. -/
inductive Note where
  /-- Storage was handed out. -/
  | allocated (size : UInt64) (label : String)
  /-- The objects of a demonstration exist; so many bytes have been handed out in all. -/
  | createdInstances (bytes : UInt64)
  /-- A class was built. -/
  | built (record : Built)
  /-- The class table of the built-in classes exists. -/
  | createdClassTable
  /-- So many integers have this sum. -/
  | summed (count : Nat) (total : Int32)
  /-- The clock was looked at. -/
  | localTime (stamp : String)
deriving DecidableEq

/-- The note in words. -/
def Note.text : Note → String
  | .allocated size label => "allocated " ++ toString size.toNat ++ " bytes for " ++ label
  | .createdInstances bytes => "created instances (" ++ toString bytes.toNat ++ " bytes)"
  | .built record =>
    "built metadata of " ++ record.name.text ++ " (" ++ toString record.slots ++ " slots)"
  | .createdClassTable => "created class table"
  | .summed count total =>
    "sum of " ++ toString count ++ " items: " ++ String.ofList (Decimal.integerText total.toInt)
  | .localTime stamp => "local time: " ++ stamp

end SlotDispatch
