import Mathlib.Data.List.Basic
import SlotDispatch.Machine

/-!
# What a sink takes

A sink takes as much of some bytes as it has room for (`Sink.taking`). If that is all of them
(`Sink.Fits`), then writing them succeeds, otherwise it fails with the fault of a full sink.

* `Sink.writeAll_of_fits`, `Sink.writeAll_of_not_fits`: these are all the cases, so the number of
  writes that it takes can be forgotten;
* `Sink.writeAll_append`: bytes may as well be written in parts;
* `Machine.writing_bind`: so may they by the actions of a machine;
* `Machine.print_of_unlimited`: without a limit all of a text is printed.
-/

namespace SlotDispatch

/-- The fault of a write to a full sink. -/
def WhenFull.fault : WhenFull → SinkFault
  | .refuse => .closed
  | .takeNothing => .nothingTaken

namespace Sink

variable {sink : Sink} {bytes bytes' : List UInt8}

/-- There is room for some bytes. -/
def Fits (sink : Sink) (bytes : List UInt8) : Prop :=
  ∀ room, sink.room = some room → bytes.length ≤ room

/-- What is taken of some bytes. -/
def taken (sink : Sink) (bytes : List UInt8) : List UInt8 :=
  match sink.room with
  | none => bytes
  | some room => bytes.take room

/-- The sink after it has taken what it has room for. -/
def taking (sink : Sink) (bytes : List UInt8) : Sink :=
  { sink with
    written := sink.written ++ sink.taken bytes
    room := sink.room.map (· - bytes.length) }

theorem fits_of_unlimited (h : sink.room = none) : sink.Fits bytes := by
  intro room hr
  cases h.symm.trans hr

theorem fits_iff_le {room : Nat} (h : sink.room = some room) :
    sink.Fits bytes ↔ bytes.length ≤ room := by
  constructor
  · intro hf
    exact hf room h
  · intro hl room' hr
    cases h.symm.trans hr
    exact hl

theorem written_taking_of_unlimited (h : sink.room = none) (bytes : List UInt8) :
    (sink.taking bytes).written = sink.written ++ bytes := by
  rw [taking, taken, h]

/-- The bytes of a text tell which text it is. -/
theorem bytesOf_inj {text text' : String} : bytesOf text = bytesOf text' ↔ text = text' := by
  refine ⟨fun h => ?_, fun h => h ▸ rfl⟩
  exact String.toByteArray_inj.1 (ByteArray.ext (Array.toList_inj.1 h))

theorem taken_eq_of_fits (h : sink.Fits bytes) : sink.taken bytes = bytes := by
  rw [taken]
  cases hr : sink.room with
  | none => rfl
  | some room => exact List.take_of_length_le (h room hr)

/-- If not all is taken, the sink is full. -/
theorem room_taking_of_not_fits (h : ¬sink.Fits bytes) : (sink.taking bytes).room = some 0 := by
  cases hr : sink.room with
  | none => exact absurd (fits_of_unlimited hr) h
  | some room =>
    rw [fits_iff_le hr, Nat.not_le] at h
    rw [taking, hr, Option.map_some, Nat.sub_eq_zero_of_le (Nat.le_of_lt h)]

/-! ## Writing everything -/

theorem writeAll_nil : writeAll [] sink = .ok () sink := by
  rw [writeAll]

/-- A full sink takes nothing. -/
theorem writeAll_of_full (h : sink.room = some 0) (hb : bytes ≠ []) :
    writeAll bytes sink = .error sink.whenFull.fault sink := by
  cases bytes with
  | nil => exact absurd rfl hb
  | cons byte bytes =>
    rw [writeAll, offer, h]
    cases hw : sink.whenFull with
    | refuse => rfl
    | takeNothing => rfl

/-- One write takes what there is room for, if there is any. -/
theorem offer_eq (h : sink.room ≠ some 0) :
    offer bytes sink = .ok (sink.taken bytes).length (sink.taking bytes) := by
  rw [offer, taking, taken]
  cases hr : sink.room with
  | none => rfl
  | some room =>
    cases room with
    | zero => exact absurd hr h
    | succ room =>
      have hm : room + 1 - min (room + 1) bytes.length = room + 1 - bytes.length := by omega
      simp only [List.length_take, Option.map_some, hm, ← List.take_eq_take_min]

/-- After a write, the rest is written. -/
theorem writeAll_drop (h : sink.room ≠ some 0) (hb : bytes ≠ []) :
    writeAll bytes sink =
      writeAll (bytes.drop (sink.taken bytes).length) (sink.taking bytes) := by
  cases bytes with
  | nil => exact absurd rfl hb
  | cons byte bytes =>
    cases ht : sink.taken (byte :: bytes) with
    | nil =>
      rw [taken] at ht
      cases hr : sink.room with
      | none => simp [hr] at ht
      | some room =>
        simp only [hr, List.take_eq_nil_iff, reduceCtorEq, or_false] at ht
        exact absurd (hr.trans (by rw [ht])) h
    | cons first rest =>
      rw [writeAll, offer_eq h, ht]
      rfl

theorem taking_nil : sink.taking [] = sink := by
  rw [taking, taken]
  cases sink with
  | mk written room whenFull flushFails flushes =>
    cases room <;> simp

theorem taking_of_full (h : sink.room = some 0) : sink.taking bytes = sink := by
  rw [taking, taken]
  cases sink with
  | mk written room whenFull flushFails flushes =>
    cases h
    simp

theorem writeAll_of_fits (h : sink.Fits bytes) :
    writeAll bytes sink = .ok () (sink.taking bytes) := by
  by_cases hb : bytes = []
  · rw [hb, writeAll_nil, taking_nil]
  · have hr : sink.room ≠ some 0 := fun hr =>
      hb (List.length_eq_zero_iff.1 (Nat.le_zero.1 (h 0 hr)))
    rw [writeAll_drop hr hb, taken_eq_of_fits h, List.drop_length, writeAll_nil]

theorem writeAll_of_not_fits (h : ¬sink.Fits bytes) :
    writeAll bytes sink = .error sink.whenFull.fault (sink.taking bytes) := by
  have hb : bytes ≠ [] := by
    rintro rfl
    exact h fun room _ => Nat.zero_le room
  by_cases hr : sink.room = some 0
  · rw [taking_of_full hr, writeAll_of_full hr hb]
  · -- The first write fills the sink, and there is a rest.
    have hd : bytes.drop (sink.taken bytes).length ≠ [] := by
      intro hd
      refine h fun room hs => ?_
      rw [List.drop_eq_nil_iff, taken, hs, List.length_take] at hd
      omega
    rw [writeAll_drop hr hb, writeAll_of_full (room_taking_of_not_fits h) hd]
    rfl

/-! ## Writing in parts -/

theorem taking_taking : (sink.taking bytes).taking bytes' = sink.taking (bytes ++ bytes') := by
  simp only [taking, taken]
  cases sink.room with
  | none => simp only [Option.map_none, List.append_assoc]
  | some room =>
    simp only [Option.map_some, List.append_assoc, List.take_append, List.length_append,
      Nat.sub_sub]

theorem fits_append : sink.Fits (bytes ++ bytes') ↔
    sink.Fits bytes ∧ (sink.taking bytes).Fits bytes' := by
  cases hr : sink.room with
  | none =>
    have hr' : (sink.taking bytes).room = none := by rw [taking, hr, Option.map_none]
    exact ⟨fun _ => ⟨fits_of_unlimited hr, fits_of_unlimited hr'⟩, fun _ => fits_of_unlimited hr⟩
  | some room =>
    have hr' : (sink.taking bytes).room = some (room - bytes.length) := by
      rw [taking, hr, Option.map_some]
    rw [fits_iff_le hr, fits_iff_le hr, fits_iff_le hr', List.length_append]
    omega

/-- It makes no difference whether bytes are written at once or in parts. -/
theorem writeAll_append :
    writeAll (bytes ++ bytes') = (do writeAll bytes; writeAll bytes' : Writing Unit) := by
  funext sink
  simp only [bind, EStateM.bind]
  by_cases h : sink.Fits bytes
  · rw [writeAll_of_fits h]
    dsimp only
    by_cases h' : (sink.taking bytes).Fits bytes'
    · rw [writeAll_of_fits h', writeAll_of_fits (fits_append.2 ⟨h, h'⟩), taking_taking]
    · rw [writeAll_of_not_fits h', writeAll_of_not_fits fun hf => h' (fits_append.1 hf).2,
        taking_taking]
      rfl
  · -- The first part fills the sink.
    rw [writeAll_of_not_fits h, writeAll_of_not_fits fun hf => h (fits_append.1 hf).1,
      ← taking_taking, taking_of_full (room_taking_of_not_fits h)]

end Sink

/-! ## The sink of a machine -/

namespace Machine

variable {α β : Type} {machine : Machine} {sink : Sink}

theorem writing_of_ok {write : Writing α} {a : α} (h : write machine.sink = .ok a sink) :
    writing write machine = .ok a { machine with sink } := by
  rw [writing, h]

theorem writing_of_error {write : Writing α} {fault : SinkFault}
    (h : write machine.sink = .error fault sink) :
    writing write machine = .error (.sink fault) { machine with sink } := by
  rw [writing, h]

theorem print_of_unlimited (h : machine.sink.room = none) (text : String) :
    print text machine =
      .ok () { machine with sink := machine.sink.taking (Sink.bytesOf text) } :=
  writing_of_ok (Sink.writeAll_of_fits (Sink.fits_of_unlimited h))

theorem writing_bind (write : Writing α) (next : α → Writing β) :
    writing (write >>= next) = writing write >>= fun a => writing (next a) := by
  funext machine
  simp only [writing, bind, EStateM.bind]
  cases write machine.sink with
  | ok a sink => rfl
  | error fault sink => rfl

end Machine

end SlotDispatch
