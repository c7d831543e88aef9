import SlotDispatch.Json.Tree
import SlotDispatch.Name
import SlotDispatch.Text.Quoted

/-!
# Faults of reading

A JSON text can be refused for three reasons: it is not well-formed as far as it was read, it is
well-formed but does not describe what was asked for, or a name in it was refused. A value that is
not of the expected kind is described in the message (`Found`).
-/

namespace SlotDispatch.Interchange

/-- What was found in a place where something else was expected. -/
inductive Found where
  /-- No value. -/
  | null
  /-- A truth value. -/
  | bool (value : Bool)
  /-- A number. -/
  | number (value : Json.Number)
  /-- A string. -/
  | text (value : String)
  /-- An array, whatever is in it. -/
  | sequence
  /-- An object, whatever is in it. -/
  | map

/-- What was found, in words. -/
def Found.words : Found → String
  | .null => "null"
  | .bool true => "boolean `true`"
  | .bool false => "boolean `false`"
  | .number (.integer value) => "integer `" ++ String.ofList (Decimal.integerText value) ++ "`"
  | .number (.float value) => "floating point `" ++ Json.floatSpread.text value ++ "`"
  | .text value => "string " ++ Text.quoted value
  | .sequence => "sequence"
  | .map => "map"

/-- What is wrong with a well-formed text. -/
inductive DataFault where
  /-- A value is not of the expected kind. -/
  | invalidType (found : Found) (expected : String)
  /-- A value is of the expected kind, but not one of those that are accepted. -/
  | invalidValue (found : Found) (expected : String)
  /-- A field is missing. -/
  | missingField (name : String)
  /-- A field comes twice. -/
  | duplicateField (name : String)
  /-- An array that stands for a descriptor has too few items. -/
  | tooFew (length : Nat)
  /-- An array that stands for a descriptor has too many items. -/
  | tooMany (length : Nat)

/-- The fault in words. -/
def DataFault.message : DataFault → String
  | .invalidType found expected => "invalid type: " ++ found.words ++ ", expected " ++ expected
  | .invalidValue found expected => "invalid value: " ++ found.words ++ ", expected " ++ expected
  | .missingField name => "missing field `" ++ name ++ "`"
  | .duplicateField name => "duplicate field `" ++ name ++ "`"
  | .tooFew length =>
    "invalid length " ++ toString length ++ ", expected struct Metadata with 4 elements"
  | .tooMany length =>
    "invalid length " ++ toString length ++ ", expected fewer elements in array"

/-- Why a text was refused. -/
inductive ReadFault where
  /-- It is not well-formed. -/
  | text (fault : Json.Fault)
  /-- It does not describe what was asked for. -/
  | data (fault : DataFault)
  /-- It has an unfit name. -/
  | naming (fault : NameFault)

/-- What a reader finds who expected something else. -/
def Found.ofTree : Json.Tree → Except Json.Fault Found
  | .null => .ok .null
  | .bool value => .ok (.bool value)
  | .number (some value) => .ok (.number value)
  | .number none => .error .malformed
  | .badNumber fault => .error fault
  | .text t =>
    match t.decoded with
    | .ok value => .ok (.text value)
    | .error fault => .error fault
  | .array _ _ => .ok .sequence
  | .object _ _ => .ok .map
  | .broken fault => .error fault

end SlotDispatch.Interchange
