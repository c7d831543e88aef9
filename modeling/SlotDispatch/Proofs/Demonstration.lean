import SlotDispatch.Proofs.Overflow
import SlotDispatch.Proofs.Sinks

/-!
# The demonstration of dispatch

`Program.dispatch` first requests storage for a vehicle and for a truck, and only then writes: what
`start` prints on the vehicle, on the truck, and on the truck seen as a vehicle.

* `Program.dispatch_eq`: the demonstration as requests, a note and one write;
* `Program.dispatch_of_no_vehicle`, `Program.dispatch_of_no_truck`, `Program.dispatch_of_meets`:
  what it does, by which of the requests are met;
* `Program.dispatches_ok_iff`: how often it can be repeated on one heap.
-/

namespace SlotDispatch

theorem Machine.mem_answers_of_handedOut {machine : Machine} {layout : Layout} {answer : Bool}
    (h : answer ∈ (machine.handedOut layout).answers) : answer ∈ machine.answers :=
  mem_answers_of_asked h

namespace Program

/-- What the demonstration prints. -/
def demonstration : List UInt8 :=
  Sink.bytesOf "Vehicle_start\n" ++ (Sink.bytesOf "Truck_start\n" ++ Sink.bytesOf "Truck_start\n")

theorem dispatch_eq : dispatch = (do
    Machine.allocate Vehicle.layout
    Machine.allocate Truck.layout
    Machine.note (.createdInstances (← get).heap.allocated)
    Machine.writing (Sink.writeAll demonstration)) := by
  rw [demonstration, Sink.writeAll_append, Sink.writeAll_append, Machine.writing_bind,
    Machine.writing_bind]
  simp only [dispatch, Vehicle.create, Truck.create, Vehicle.zeroed, Truck.zeroed, bind_assoc,
    pure_bind]
  rfl

variable {machine : Machine}

/-! ## One demonstration -/

/-- The machine when both objects are there and nothing is written. -/
def prepared (machine : Machine) : Machine :=
  let machine := (machine.handedOut Vehicle.layout).handedOut Truck.layout
  { machine with notes := machine.notes ++ [.createdInstances machine.heap.allocated] }

theorem mem_answers_of_prepared {answer : Bool} (h : answer ∈ (prepared machine).answers) :
    answer ∈ machine.answers := by
  rw [prepared] at h
  exact Machine.mem_answers_of_handedOut (Machine.mem_answers_of_handedOut h)

theorem dispatch_of_meets (hv : machine.Meets Vehicle.layout)
    (ht : (machine.handedOut Vehicle.layout).Meets Truck.layout) :
    dispatch machine = Machine.writing (Sink.writeAll demonstration) (prepared machine) := by
  rw [dispatch_eq]
  simp only [bind, EStateM.bind, hv.allocate_eq, ht.allocate_eq]
  rfl

theorem dispatch_of_no_vehicle (hv : ¬machine.Grants Vehicle.layout) :
    dispatch machine =
      .error (.heap (.outOfMemory "Vehicle" 16)) (machine.asked Vehicle.layout) := by
  rw [dispatch_eq]
  simp only [bind, EStateM.bind, Machine.allocate_of_not_grants hv]
  rfl

theorem dispatch_of_no_truck (hv : machine.Meets Vehicle.layout)
    (ht : ¬(machine.handedOut Vehicle.layout).Grants Truck.layout) :
    dispatch machine =
      .error (.heap (.outOfMemory "Truck" 16))
        ((machine.handedOut Vehicle.layout).asked Truck.layout) := by
  rw [dispatch_eq]
  simp only [bind, EStateM.bind, hv.allocate_eq, Machine.allocate_of_not_grants ht]
  rfl

theorem dispatch_of_unlimited (hv : machine.Meets Vehicle.layout)
    (ht : (machine.handedOut Vehicle.layout).Meets Truck.layout) (hs : machine.sink.room = none) :
    dispatch machine =
      .ok () { prepared machine with sink := machine.sink.taking demonstration } := by
  rw [dispatch_of_meets hv ht]
  exact Machine.writing_of_ok (Sink.writeAll_of_fits (Sink.fits_of_unlimited hs))

section Counted

-- The count leaves room for both objects.
variable (hc : machine.heap.allocated.toNat + 2 * 16 < UInt64.size)

include hc

theorem vehicle_lt_size :
    machine.heap.allocated.toNat + Vehicle.layout.size.toNat < UInt64.size :=
  Nat.lt_of_le_of_lt (Nat.add_le_add_left (by decide) _) hc

theorem allocated_vehicle :
    (machine.handedOut Vehicle.layout).heap.allocated.toNat = machine.heap.allocated.toNat + 16 :=
  Machine.handedOut_allocated (vehicle_lt_size hc)

theorem truck_lt_size :
    (machine.handedOut Vehicle.layout).heap.allocated.toNat + Truck.layout.size.toNat <
      UInt64.size := by
  rw [allocated_vehicle hc, Nat.add_assoc]
  exact hc

theorem allocated_prepared :
    (prepared machine).heap.allocated.toNat = machine.heap.allocated.toNat + 32 := by
  refine (Machine.handedOut_allocated (truck_lt_size hc)).trans ?_
  rw [allocated_vehicle hc, Nat.add_assoc]
  rfl

theorem text_notes_prepared :
    (prepared machine).notes.map Note.text = machine.notes.map Note.text ++
      ["allocated 16 bytes for Vehicle", "allocated 16 bytes for Truck",
        "created instances (" ++ toString (machine.heap.allocated.toNat + 32) ++ " bytes)"] := by
  rw [← allocated_prepared hc]
  simp only [prepared, Machine.handedOut, List.map_append, List.append_assoc]
  rfl

end Counted

/-- What the demonstration comes to. -/
structure Demonstrates (machine : Machine) : Prop where
  /-- Without storage for the vehicle, nothing is handed out and nothing written. -/
  noVehicle : ¬machine.Grants Vehicle.layout → ∃ next,
    dispatch machine = .error (.heap (.outOfMemory "Vehicle" 16)) next ∧
      next.heap = machine.heap ∧ next.sink = machine.sink ∧ next.notes = machine.notes
  /-- Without storage for the truck, that of the vehicle is handed out and nothing written. -/
  noTruck : machine.Grants Vehicle.layout →
    ¬(machine.handedOut Vehicle.layout).Grants Truck.layout → ∃ next,
      dispatch machine = .error (.heap (.outOfMemory "Truck" 16)) next ∧
        next.heap.limit = machine.heap.limit ∧
        next.heap.allocated.toNat = machine.heap.allocated.toNat + 16 ∧
        next.sink = machine.sink
  /-- With storage for both, only the sink can fail. Storage is handed out and noted all the
      same. -/
  both : machine.Grants Vehicle.layout → (machine.handedOut Vehicle.layout).Grants Truck.layout →
    ∃ next,
      (dispatch machine = .ok () next ∨ ∃ fault, dispatch machine = .error (.sink fault) next) ∧
        next.heap.limit = machine.heap.limit ∧
        next.heap.allocated.toNat = machine.heap.allocated.toNat + 32 ∧
        next.notes.map Note.text = machine.notes.map Note.text ++
          ["allocated 16 bytes for Vehicle", "allocated 16 bytes for Truck",
            "created instances (" ++ toString (machine.heap.allocated.toNat + 32) ++ " bytes)"] ∧
        (machine.sink.room = none → dispatch machine = .ok () next ∧
          next.sink.written = machine.sink.written ++ demonstration)

theorem demonstrates (hc : machine.heap.allocated.toNat + 2 * 16 < UInt64.size) :
    Demonstrates machine where
  noVehicle hv := ⟨_, dispatch_of_no_vehicle hv, rfl, rfl, rfl⟩
  noTruck hv ht :=
    have hmv := Machine.meets_iff.2 ⟨hv, vehicle_lt_size hc⟩
    ⟨_, dispatch_of_no_truck hmv ht, rfl, allocated_vehicle hc, rfl⟩
  both hv ht := by
    have hmv := Machine.meets_iff.2 ⟨hv, vehicle_lt_size hc⟩
    have hmt := Machine.meets_iff.2 ⟨ht, truck_lt_size hc⟩
    have hd := dispatch_of_meets hmv hmt
    refine ⟨{ prepared machine with sink := machine.sink.taking demonstration }, ?_, rfl,
      allocated_prepared hc, text_notes_prepared hc, fun hs => ⟨?_, ?_⟩⟩
    · by_cases hf : machine.sink.Fits demonstration
      · exact .inl (hd.trans (Machine.writing_of_ok (Sink.writeAll_of_fits hf)))
      · exact .inr ⟨_, hd.trans (Machine.writing_of_error (Sink.writeAll_of_not_fits hf))⟩
    · exact dispatch_of_unlimited hmv hmt hs
    · exact Sink.written_taking_of_unlimited hs demonstration

/-! ## Demonstrations on a heap with a limit -/

/-- So many demonstrations, one after the other, as long as they succeed. -/
def dispatches : Nat → Action Unit
  | 0 => return ()
  | times + 1 => do
    dispatch
    dispatches times

section Limited

-- There is a limit, and the allocator has storage for everything.
variable {most : UInt64} (hl : machine.heap.limit = some most)
  (ha : ∀ answer ∈ machine.answers, answer = true)

include hl ha

theorem grants_iff_le {layout : Layout} : machine.Grants layout ↔
    machine.heap.allocated.toNat + layout.size.toNat ≤ most.toNat :=
  ⟨fun hg => hg.room most hl, Machine.grants_of_le hl ha⟩

theorem grants_truck_iff_le (hc : machine.heap.allocated.toNat + 16 < UInt64.size) :
    (machine.handedOut Vehicle.layout).Grants Truck.layout ↔
      machine.heap.allocated.toNat + 32 ≤ most.toNat := by
  have hl' : (machine.handedOut Vehicle.layout).heap.limit = some most := hl
  have hm : (machine.handedOut Vehicle.layout).heap.allocated.toNat =
      machine.heap.allocated.toNat + 16 := Machine.handedOut_allocated hc
  rw [grants_iff_le hl' fun answer h => ha answer (Machine.mem_answers_of_asked h), hm,
    Nat.add_assoc]
  rfl

/-- With enough below the limit, a demonstration succeeds and leaves the rest. -/
theorem dispatch_of_le (hs : machine.sink.room = none)
    (hm : machine.heap.allocated.toNat + 32 ≤ most.toNat) :
    ∃ next, dispatch machine = .ok () next ∧ next.heap.limit = some most ∧
      (∀ answer ∈ next.answers, answer = true) ∧ next.sink.room = none ∧
      next.heap.allocated.toNat = machine.heap.allocated.toNat + 32 := by
  have hc : machine.heap.allocated.toNat + 2 * 16 < UInt64.size :=
    Nat.lt_of_le_of_lt hm most.toNat_lt_size
  have hv : machine.Grants Vehicle.layout :=
    (grants_iff_le hl ha).2 (Nat.le_trans (Nat.add_le_add_left (by decide) _) hm)
  have ht : (machine.handedOut Vehicle.layout).Grants Truck.layout :=
    (grants_truck_iff_le hl ha (vehicle_lt_size hc)).2 hm
  have hn := dispatch_of_unlimited (Machine.meets_iff.2 ⟨hv, vehicle_lt_size hc⟩)
    (Machine.meets_iff.2 ⟨ht, truck_lt_size hc⟩) hs
  refine ⟨_, hn, hl, fun answer h => ?_, ?_, ?_⟩
  · exact ha answer (mem_answers_of_prepared h)
  · rw [Sink.taking, hs, Option.map_none]
  · exact allocated_prepared hc

/-- Without it, one of the requests is refused. -/
theorem dispatch_of_lt (hm : most.toNat < machine.heap.allocated.toNat + 32) :
    ∃ fault next, dispatch machine = .error fault next := by
  by_cases hv : machine.Grants Vehicle.layout
  · have hc := Heap.lt_size_of_within (Machine.grants_iff.1 hv).1 hl
    have ht : ¬(machine.handedOut Vehicle.layout).Grants Truck.layout := by
      rw [grants_truck_iff_le hl ha hc]
      exact Nat.not_le.2 hm
    exact ⟨_, _, dispatch_of_no_truck (Machine.meets_iff.2 ⟨hv, hc⟩) ht⟩
  · exact ⟨_, _, dispatch_of_no_vehicle hv⟩

end Limited

/-- The demonstration can be repeated as long as there is room for two more objects. -/
theorem dispatches_ok_iff {most : UInt64} (hl : machine.heap.limit = some most)
    (ha : ∀ answer ∈ machine.answers, answer = true) (hs : machine.sink.room = none)
    (hm : machine.heap.allocated.toNat ≤ most.toNat) (times : Nat) :
    (∃ next, dispatches times machine = .ok () next) ↔
      machine.heap.allocated.toNat + 32 * times ≤ most.toNat := by
  induction times generalizing machine with
  | zero => exact ⟨fun _ => hm, fun _ => ⟨machine, rfl⟩⟩
  | succ times ih =>
    simp only [dispatches, bind, EStateM.bind]
    by_cases hd : machine.heap.allocated.toNat + 32 ≤ most.toNat
    · obtain ⟨next, hn, hl', ha', hs', hc⟩ := dispatch_of_le hl ha hs hd
      rw [hn]
      dsimp only
      rw [ih hl' ha' hs' (hc ▸ hd), hc]
      omega
    · obtain ⟨fault, next, hn⟩ := dispatch_of_lt hl ha (Nat.not_le.1 hd)
      rw [hn]
      constructor
      · rintro ⟨_, hok⟩
        cases hok
      · intro h
        omega

/-- The demonstration requests storage for both objects before it writes anything, whatever the
    heap, the allocator and the sink are like. If the allocator has storage for everything, then the
    limit decides which of the requests are met, and how often the demonstration can be repeated on
    a heap that was new. -/
theorem dispatch_allocates_first (machine : Machine)
    (hc : machine.heap.allocated.toNat + 2 * 16 < UInt64.size) :
    Demonstrates machine ∧
    ∀ most, machine.heap.limit = some most → (∀ answer ∈ machine.answers, answer = true) →
      (¬machine.Grants Vehicle.layout ↔ most.toNat < machine.heap.allocated.toNat + 16) ∧
      (machine.Grants Vehicle.layout ∧ ¬(machine.handedOut Vehicle.layout).Grants Truck.layout ↔
        machine.heap.allocated.toNat + 16 ≤ most.toNat ∧
          most.toNat < machine.heap.allocated.toNat + 32) ∧
      (machine.Grants Vehicle.layout ∧ (machine.handedOut Vehicle.layout).Grants Truck.layout ↔
        machine.heap.allocated.toNat + 32 ≤ most.toNat) ∧
      (machine.heap.allocated = 0 → machine.sink.room = none → ∀ times,
        (∃ next, dispatches times machine = .ok () next) ↔ 32 * times ≤ most.toNat) := by
  refine ⟨demonstrates hc, fun most hl ha => ?_⟩
  have hv : machine.Grants Vehicle.layout ↔ machine.heap.allocated.toNat + 16 ≤ most.toNat :=
    grants_iff_le hl ha
  rw [grants_truck_iff_le hl ha (vehicle_lt_size hc), hv]
  refine ⟨Nat.not_le, by omega, by omega, fun h0 hs times => ?_⟩
  have h0' : machine.heap.allocated.toNat = 0 := by rw [h0]; rfl
  rw [dispatches_ok_iff hl ha hs (by omega), h0', Nat.zero_add]

/-- A heap that has handed out 10 of 50 bytes, and a sink with room for one line. -/
def cramped : Machine where
  heap := { limit := some 50, allocated := 10 }
  sink := { room := some 14 }
  clock := ⟨0, 0, 0, ""⟩

/-- A new heap of 70 bytes. -/
def roomy : Machine where
  heap := { limit := some 70 }
  clock := ⟨0, 0, 0, ""⟩

/-- The objects are there though not all can be printed. A new heap of 70 bytes is enough for two
    demonstrations, and not for three. -/
theorem dispatch_allocates_first_cramped :
    (∃ next, (dispatch cramped = .ok () next ∨
        ∃ fault, dispatch cramped = .error (.sink fault) next) ∧
      next.heap.allocated.toNat = 42) ∧
    (∃ next, dispatches 2 roomy = .ok () next) ∧ ¬∃ next, dispatches 3 roomy = .ok () next := by
  obtain ⟨hd, hl⟩ := dispatch_allocates_first cramped (by decide)
  obtain ⟨-, -, hg, -⟩ := hl 50 rfl (by decide)
  obtain ⟨hv, ht⟩ := hg.2 (by decide)
  obtain ⟨next, hn, -, hc, -⟩ := hd.both hv ht
  obtain ⟨-, -, -, hr⟩ := (dispatch_allocates_first roomy (by decide)).2 70 rfl (by decide)
  refine ⟨⟨next, hn, hc⟩, (hr rfl rfl 2).2 (by decide), ?_⟩
  intro h
  exact absurd ((hr rfl rfl 3).1 h) (by decide)

end Program

end SlotDispatch
