import SlotDispatch.Native
import SlotDispatch.Proofs.Numerals

/-!
# Telling the time from the message

The message has a field for the hour, one for the minute and one for the second, with a colon
between them. A field has at least two digits, and more if its value needs more (`Clock.Shows`),
so it may be of any length from two to ten. As there are no colons in the fields, they are found by
splitting what stands between the fixed parts of the message (`splitOn_middle`), and as the digits
of a field stand for its value, the message tells the time.
-/

namespace SlotDispatch.Native.Clock

variable {clock other : Clock} {cs : List Char} {value : UInt32}

/-- A field shows a value: in digits, at least two and as many as are needed. -/
structure Shows (cs : List Char) (value : UInt32) : Prop where
  /-- There are only digits. -/
  areDigits : Decimal.AreDigits cs
  /-- There are two of them, or more if the value has more. -/
  length : cs.length = max 2 (Nat.digits 10 value.toNat).length
  /-- They stand for the value. -/
  value_eq : Decimal.value cs = value.toNat

theorem shows_field (value : UInt32) : Shows (field value) value where
  areDigits := Decimal.areDigits_padded 2 value.toNat
  length := Decimal.length_padded (by decide) value.toNat
  value_eq := Decimal.value_padded 2 value.toNat

theorem field_inj {value value' : UInt32} : field value = field value' ↔ value = value' := by
  refine ⟨fun h => UInt32.toNat_inj.1 ?_, congrArg field⟩
  rw [← (shows_field value).value_eq, h, (shows_field value').value_eq]

theorem colon_not_mem_field (value : UInt32) : ':' ∉ field value :=
  (shows_field value).areDigits.not_mem (by decide)

/-- What stands between the fixed parts of the message. -/
def middle (clock : Clock) : List Char :=
  field clock.hour ++ ':' :: field clock.minute ++ ':' :: field clock.second

theorem splitOn_middle (clock : Clock) :
    clock.middle.splitOn ':' = [field clock.hour, field clock.minute, field clock.second] := by
  rw [middle, List.append_assoc, List.cons_append,
    List.splitOn_append_cons_self_of_not_mem (colon_not_mem_field _),
    List.splitOn_append_cons_self_of_not_mem (colon_not_mem_field _),
    List.splitOn_eq_singleton (colon_not_mem_field _)]

theorem message_eq (clock : Clock) :
    clock.message = "The current time is: " ++ String.ofList clock.middle ++ ".\n" := rfl

theorem middle_eq_of_message_eq (h : clock.message = other.message) :
    clock.middle = other.middle := by
  rwa [message_eq, message_eq, String.append_left_inj, String.append_right_inj,
    String.ofList_inj] at h

theorem message_eq_iff : clock.message = other.message ↔
    clock.hour = other.hour ∧ clock.minute = other.minute ∧ clock.second = other.second := by
  constructor
  · intro h
    have hs := congrArg (List.splitOn ':') (middle_eq_of_message_eq h)
    simpa only [splitOn_middle, List.cons.injEq, and_true, field_inj] using hs
  · rintro ⟨hh, hm, hs⟩
    rw [message_eq, message_eq, middle, middle, hh, hm, hs]

/-- The message has three fields with colons between them, which are found by splitting. They show
    the hour, the minute and the second, so clocks with the same message show the same time. -/
theorem message_tells_time (clock : Clock) : ∃ hour minute second : List Char,
    clock.message = "The current time is: " ++
      String.ofList (hour ++ ':' :: minute ++ ':' :: second) ++ ".\n" ∧
    Shows hour clock.hour ∧ Shows minute clock.minute ∧ Shows second clock.second ∧
    (hour ++ ':' :: minute ++ ':' :: second).splitOn ':' = [hour, minute, second] ∧
    ∀ other : Clock, other.message = clock.message ↔
      other.hour = clock.hour ∧ other.minute = clock.minute ∧ other.second = clock.second :=
  ⟨field clock.hour, field clock.minute, field clock.second, rfl, shows_field _, shows_field _,
    shows_field _, splitOn_middle clock, fun _ => message_eq_iff⟩

example : (Clock.mk 7 4294967295 0 "").message = "The current time is: 07:4294967295:00.\n" := by
  decide

end SlotDispatch.Native.Clock
