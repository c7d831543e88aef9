import SlotDispatch.Proofs.BuildOrder
import SlotDispatch.Proofs.Demonstration
import SlotDispatch.Proofs.Sums

/-!
# What is printed arrives, or the failure is reported

Each of the tasks of the program gets ready without looking at the sink, and then writes a text
(`Program.Task.text`): the demonstration in several parts and through the slots of objects, the
greeting with a flush after it (`Program.deliver`). So on a sink with room for only so many bytes,
exactly these arrive, and the task succeeds only if they are all.

* `Program.Task.perform_eq`: each task as a text that is delivered;
* `Program.Task.output_eq_text`: the text is what the task writes when nothing keeps it from
  writing;
* `Program.deliver_of_fits`, `Program.deliver_of_not_fits`: what a delivery leaves, and how it ends.
-/

namespace SlotDispatch

/-- Whether a request is met does not depend on the sink. -/
theorem Machine.Meets.with_sink {machine : Machine} {layout : Layout} (h : machine.Meets layout)
    (sink : Sink) : Machine.Meets { machine with sink } layout := by
  obtain ⟨hg, hs⟩ := meets_iff.1 h
  exact meets_iff.2 ⟨⟨hg.room, hg.storage⟩, hs⟩

namespace Program

/-! ## Deliveries -/

/-- Writes some bytes, and flushes after them if asked to. -/
def deliver (bytes : List UInt8) (flushing : Bool) : Writing Unit := do
  Sink.writeAll bytes
  if flushing then Sink.flush

theorem deliver_false (bytes : List UInt8) : deliver bytes false = Sink.writeAll bytes := by
  rw [deliver, if_neg Bool.false_ne_true]
  exact bind_pure_unit

theorem deliver_true (bytes : List UInt8) :
    deliver bytes true = (do Sink.writeAll bytes; Sink.flush : Writing Unit) := by
  rw [deliver, if_pos rfl]

variable {sink : Sink} {bytes : List UInt8} {flushing : Bool}

/-- What is not taken as a whole is not flushed. -/
theorem deliver_of_not_fits (h : ¬sink.Fits bytes) :
    deliver bytes flushing sink = .error sink.whenFull.fault (sink.taking bytes) := by
  rw [deliver]
  simp only [bind, EStateM.bind, Sink.writeAll_of_not_fits h]

/-- After all bytes, only the flush can fail. -/
theorem deliver_of_fits (h : sink.Fits bytes) :
    deliver bytes flushing sink =
      if flushing = true ∧ sink.flushFails = true then
        .error .flushFailed { sink.taking bytes with flushes := sink.flushes + 1 }
      else .ok () { sink.taking bytes with flushes := sink.flushes + flushing.toNat } := by
  cases flushing with
  | false =>
    rw [deliver_false, Sink.writeAll_of_fits h, if_neg fun hf => Bool.false_ne_true hf.1]
    rfl
  | true =>
    rw [deliver_true]
    simp only [bind, EStateM.bind, Sink.writeAll_of_fits h, true_and]
    rfl

/-! ## The tasks -/

/-- What the program can be asked to do. -/
inductive Task where
  /-- Show how dispatch works. -/
  | dispatch
  /-- Print the built-in classes. -/
  | dumpClasses
  /-- Print the time. -/
  | time
  /-- Print the greeting. -/
  | hello (greeter : Greeter)
  /-- Print the sum of some integers. -/
  | sum (numbers : List Int32)

namespace Task

/-- Performs the task. -/
def perform : Task → Action Unit
  | .dispatch => Program.dispatch
  | .dumpClasses => Program.dumpClasses
  | .time => Program.time
  | .hello greeter => Program.hello greeter
  | .sum numbers => Program.sum numbers

/-- Whether the task flushes: only the greeting does. -/
def flushes : Task → Bool
  | .hello _ => true
  | .dispatch | .dumpClasses | .time | .sum _ => false

/-- The storage that the task needs is there. -/
def Ready (task : Task) (machine : Machine) : Prop :=
  task = .dispatch →
    machine.Meets Vehicle.layout ∧ (machine.requested Vehicle.layout).Meets Truck.layout

/-- What a task writes when nothing keeps it from writing. -/
def output (task : Task) (machine : Machine) : List UInt8 :=
  match task.perform { machine with sink := {} } with
  | .ok () next => next.sink.written
  | .error _ next => next.sink.written

/-- The built-in classes as they are printed, line by line. -/
def classesLines : List String := [
  "\x7b",
  "  \"Truck\": \x7b",
  "    \"name\": \"Truck\",",
  "    \"superclass\": \"Vehicle\",",
  "    \"size\": 16,",
  "    \"vtable\": [",
  "      \"Truck#start\",",
  "      \"Vehicle#getColor\",",
  "      \"Truck#setPayload\"",
  "    ]",
  "  \x7d,",
  "  \"Vehicle\": \x7b",
  "    \"name\": \"Vehicle\",",
  "    \"superclass\": null,",
  "    \"size\": 16,",
  "    \"vtable\": [",
  "      \"Vehicle#start\",",
  "      \"Vehicle#getColor\"",
  "    ]",
  "  \x7d",
  "\x7d"]

/-- What the task is to write: the three lines of the demonstration, the classes, the time that the
    clock shows, the greeting, or the sum of the integers, which are those from 0 to 9 if none are
    given. -/
def text (task : Task) (machine : Machine) : List UInt8 :=
  match task with
  | .dispatch => demonstration
  | .dumpClasses =>
    Sink.bytesOf (String.ofList (classesLines.flatMap fun line => line.toList ++ ['\n']))
  | .time => Sink.bytesOf machine.clock.message
  | .hello _ => Sink.bytesOf "Hello World!\n"
  | .sum numbers =>
    Sink.bytesOf (sumLine (Native.total (if numbers = [] then Native.sample else numbers)))

theorem exists_build_classesLines :
    ∃ table, ClassTable.build Builtin.declarations = .ok table ∧ table.toJson.prettyText ++ "\n" =
      String.ofList (classesLines.flatMap fun line => line.toList ++ ['\n']) := by
  obtain ⟨table, ht, hj⟩ : ∃ table, ClassTable.build Builtin.declarations = .ok table ∧
      table.toJson.prettyAt 0 ++ ['\n'] = classesLines.flatMap fun line => line.toList ++ ['\n'] :=
    exists_of_any (by decide +kernel)
  refine ⟨table, ht, ?_⟩
  rw [← hj, Json.Value.prettyText, String.ofList_append]

/-- However it is called, the greeting is the same. -/
theorem hello_eq_sayHello (greeter : Greeter) : Program.hello greeter = sayHello := by
  cases greeter <;> rfl

/-- A task gets ready, whatever the sink is like, and delivers its text. -/
theorem perform_eq {task : Task} {machine : Machine} (h : task.Ready machine) :
    ∃ prepared : Machine, ∀ sink, task.perform { machine with sink } =
      Machine.writing (deliver (task.text machine) task.flushes) { prepared with sink } := by
  cases task with
  | dispatch =>
    obtain ⟨hv, ht⟩ := h rfl
    rw [hv.requested_eq] at ht
    refine ⟨prepared machine, fun sink => ?_⟩
    rw [flushes, deliver_false]
    exact dispatch_of_meets (hv.with_sink sink) (ht.with_sink sink)
  | dumpClasses =>
    obtain ⟨table, ht, hj⟩ := exists_build_classesLines
    refine ⟨{ machine with
      notes := machine.notes ++ (ClassTable.buildTrace Builtin.declarations).map .built ++
        [.createdClassTable] }, fun sink => ?_⟩
    rw [flushes, deliver_false, text, ← hj, perform, Program.dumpClasses]
    simp only [bind, EStateM.bind, ClassTable.buildClasses_eq_ok ht]
    rfl
  | time =>
    refine ⟨{ machine with
      notes := machine.notes ++ [.localTime machine.clock.stamp] }, fun sink => ?_⟩
    rw [flushes, deliver_false]
    rfl
  | hello greeter =>
    refine ⟨machine, fun sink => ?_⟩
    rw [flushes, deliver_true, Machine.writing_bind, perform, hello_eq_sayHello]
    rfl
  | sum numbers =>
    let items := if numbers = [] then Native.sample else numbers
    refine ⟨{ machine with
      notes := machine.notes ++ [.summed items.length (Native.total items)] }, fun sink => ?_⟩
    rw [flushes, deliver_false, text, sumLine, ← Decimal.ofList_integerText]
    rfl

/-- What a task writes when nothing keeps it from writing is its text. -/
theorem output_eq_text {task : Task} {machine : Machine} (h : task.Ready machine) :
    task.output machine = task.text machine := by
  obtain ⟨prepared, hp⟩ := perform_eq h
  have hf : Sink.Fits {} (task.text machine) := Sink.fits_of_unlimited rfl
  have hd : deliver (task.text machine) task.flushes {} = _ := deliver_of_fits hf
  rw [if_neg fun hf => Bool.false_ne_true hf.2] at hd
  rw [output, hp, Machine.writing_of_ok hd]
  rfl

/-- A task writes its text if nothing keeps it from writing. On a sink with room for so many bytes,
    these are what arrives of the text. The task succeeds if that is the whole text, and for the
    greeting the flush does not fail, otherwise it fails with the fault of the sink. It flushes once
    if it is the greeting and has arrived as a whole, and never else. -/
theorem delivers_prefix (task : Task) (machine : Machine) (room : Nat)
    (h : task.Ready machine) (hr : machine.sink.room = some room) :
    task.output machine = task.text machine ∧ ∃ next : Machine,
    next.sink.written = machine.sink.written ++ (task.output machine).take room ∧
    next.sink.flushes = machine.sink.flushes +
      (if task.flushes = true ∧ (task.output machine).length ≤ room then 1 else 0) ∧
    (room < (task.output machine).length →
      task.perform machine = .error (.sink machine.sink.whenFull.fault) next) ∧
    ((task.output machine).length ≤ room →
      task.flushes = true → machine.sink.flushFails = true →
        task.perform machine = .error (.sink .flushFailed) next) ∧
    ((task.output machine).length ≤ room →
      (task.flushes = true → machine.sink.flushFails = false) →
        task.perform machine = .ok () next) := by
  refine ⟨output_eq_text h, ?_⟩
  rw [output_eq_text h]
  obtain ⟨prepared, hp⟩ := perform_eq h
  generalize task.text machine = text at hp ⊢
  have hd : task.perform machine =
      Machine.writing (deliver text task.flushes) { prepared with sink := machine.sink } :=
    hp machine.sink
  have hw : (machine.sink.taking text).written = machine.sink.written ++ text.take room := by
    rw [Sink.taking, Sink.taken, hr]
  by_cases hl : text.length ≤ room
  · have hf : deliver text task.flushes machine.sink = _ :=
      deliver_of_fits ((Sink.fits_iff_le hr).2 hl)
    by_cases hb : task.flushes = true ∧ machine.sink.flushFails = true
    · rw [if_pos hb] at hf
      refine ⟨_, hw, ?_, fun hn => absurd hl (Nat.not_le.2 hn),
        fun _ _ _ => hd.trans (Machine.writing_of_error hf), fun _ hk => ?_⟩
      · rw [if_pos ⟨hb.1, hl⟩]
      · exact absurd ((hk hb.1).symm.trans hb.2) Bool.false_ne_true
    · rw [if_neg hb] at hf
      refine ⟨_, hw, ?_, fun hn => absurd hl (Nat.not_le.2 hn), fun _ ht hk => absurd ⟨ht, hk⟩ hb,
        fun _ _ => hd.trans (Machine.writing_of_ok hf)⟩
      cases task.flushes <;> simp [hl]
  · have hf : deliver text task.flushes machine.sink = _ :=
      deliver_of_not_fits (mt (Sink.fits_iff_le hr).1 hl)
    refine ⟨_, hw, ?_, fun _ => hd.trans (Machine.writing_of_error hf), fun hn => absurd hn hl,
      fun hn => absurd hn hl⟩
    rw [if_neg fun hn => hl hn.2]
    rfl

/-- A sink with room for the greeting, but none for a flush. -/
def unflushed : Machine where
  sink := { written := Sink.bytesOf "honk\n", room := some 13, flushFails := true }
  clock := ⟨0, 0, 0, ""⟩

/-- Of the three lines of the demonstration the first one arrives, then the sink takes nothing
    more. The greeting arrives as a whole and cannot be flushed, and of the sum of some integers
    there is no room for the end of the line. -/
theorem delivers_prefix_cramped :
    (Task.dispatch.output cramped = demonstration ∧ ∃ next,
      Task.dispatch.perform cramped = .error (.sink .nothingTaken) next ∧
        next.sink.written = Sink.bytesOf "Vehicle_start\n") ∧
    (∃ next, (Task.hello .ofType).perform unflushed = .error (.sink .flushFailed) next ∧
      next.sink.written = Sink.bytesOf "honk\nHello World!\n" ∧ next.sink.flushes = 1) ∧
    ∃ next, (Task.sum [1000000, 2345678]).perform unflushed = .error (.sink .nothingTaken) next ∧
      next.sink.written = Sink.bytesOf "honk\nsum = 3345678" ∧ next.sink.flushes = 0 := by
  obtain ⟨ho, next, hw, -, hn, -⟩ :=
    delivers_prefix .dispatch cramped 14 (fun _ => by decide +kernel) rfl
  obtain ⟨ho', next', hw', hf', -, hk', -⟩ :=
    delivers_prefix (.hello .ofType) unflushed 13 nofun rfl
  obtain ⟨hs, last, hw'', hf'', hn'', -⟩ :=
    delivers_prefix (.sum [1000000, 2345678]) unflushed 13 nofun rfl
  have ht : (Task.sum [1000000, 2345678]).text unflushed = Sink.bytesOf "sum = 3345678\n" := by
    decide
  rw [ho] at hw hn
  rw [ho'] at hw' hf' hk'
  rw [hs, ht] at hw'' hf'' hn''
  exact ⟨⟨ho, next, hn (by decide), hw.trans (by decide)⟩,
    ⟨next', hk' (by decide) rfl rfl, hw'.trans (by decide), hf'.trans (by decide)⟩,
    last, hn'' (by decide), hw''.trans (by decide), hf''.trans (by decide)⟩

end Task

end Program

end SlotDispatch
