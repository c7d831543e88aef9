import SlotDispatch.Proofs.Accounting
import SlotDispatch.Proofs.Sinks

/-!
# What an operation does to the objects of a session

The objects of a session differ in their classes and in what is in their slots. An operation makes,
changes or drops one of them at most.

* `Object.starts`: however `start` is called on an object, the routine in its slot is run;
* `Session.shows_perform`: all that an operation can do to the objects, and what is replied to it
  (`Effect`). Whether an object is made depends on the storage alone, and what becomes of an
  assignment, a copy or a drop on the objects alone;
* `Effect.frame`: all objects but one stay as they are, and all of them do if the operation fails;
* `Session.performWith_start`: to start an object by its name is to start it.
-/

namespace SlotDispatch

variable {ρ : Type}

/-! ## Objects and their slots -/

/-- The routine that a new object of a class has in its slot. -/
def Kind.routine : Kind → Routine ρ
  | .vehicle => .vehicleStart
  | .truck => .truckStart

/-- The object of a class that has this in its slot, and no descriptor. -/
def Kind.holding (kind : Kind) (slot : Option (Routine ρ)) : Object ρ :=
  match kind with
  | .vehicle => .vehicle { slot }
  | .truck => .truck { base := { slot } }

@[simp]
theorem Kind.asVehicle_holding (kind : Kind) (slot : Option (Routine ρ)) :
    (kind.holding slot).asVehicle = { slot } := by
  cases kind <;> rfl

@[simp]
theorem Kind.assign_holding (kind : Kind) (slot : Option (Routine ρ)) (routine : Routine ρ) :
    (kind.holding slot).assign routine = kind.holding (some routine) := by
  cases kind <;> rfl

/-- All ways to call `start` are the same. -/
theorem Object.start_eq [Behaviour ρ] (object : Object ρ) (route : Route) :
    object.start route = object.asVehicle.start := by
  cases route <;> cases object <;> rfl

/-- A call of `start` passes on what the routine in the slot writes, and its fault. -/
theorem Vehicle.start_of_slot [Behaviour ρ] {vehicle : Vehicle ρ} {routine : Routine ρ}
    (h : vehicle.slot = some routine) :
    vehicle.start = Machine.writing (routine.run vehicle) := by
  rw [start, h]

theorem Vehicle.start_of_empty [Behaviour ρ] {vehicle : Vehicle ρ} (h : vehicle.slot = none) :
    vehicle.start = throw (.unassignedSlot ⟨"start"⟩) := by
  rw [start, h]

/-- Calls of `start` on an object run the routine that comes first of some. -/
structure Object.Starts [Behaviour ρ] (object : Object ρ) (routines : List (Routine ρ)) :
    Prop where
  /-- The object does not know its class. -/
  descriptor : object.asVehicle.descriptor = none
  /-- It makes no difference in which way `start` is called. -/
  alike : ∀ route route', object.start route = object.start route'
  /-- What the routine writes is passed on. -/
  passesOn : ∀ routine, routines.head? = some routine → ∀ route machine sink,
    routine.run object.asVehicle machine.sink = .ok () sink →
      object.start route machine = .ok () { machine with sink }
  /-- If the routine fails, its fault is passed on with what it has written. -/
  fails : ∀ routine, routines.head? = some routine → ∀ route machine fault sink,
    routine.run object.asVehicle machine.sink = .error fault sink →
      object.start route machine = .error (.sink fault) { machine with sink }
  /-- The slot is found empty if and only if there is no routine. Then nothing is written. -/
  empty_iff : ∀ route machine next,
    object.start route machine = .error (.unassignedSlot ⟨"start"⟩) next ↔
      routines = [] ∧ next = machine

theorem Object.starts [Behaviour ρ] {object : Object ρ} {routines : List (Routine ρ)}
    (h : object.asVehicle = { slot := routines.head? }) : object.Starts routines where
  descriptor := by rw [h]
  alike route route' := by rw [object.start_eq, object.start_eq]
  passesOn routine hr route machine sink hw := by
    have hs : object.asVehicle.slot = some routine := by rw [h, ← hr]
    rw [object.start_eq, Vehicle.start_of_slot hs]
    exact Machine.writing_of_ok hw
  fails routine hr route machine fault sink hw := by
    have hs : object.asVehicle.slot = some routine := by rw [h, ← hr]
    rw [object.start_eq, Vehicle.start_of_slot hs]
    exact Machine.writing_of_error hw
  empty_iff route machine next := by
    rw [object.start_eq]
    cases routines with
    | nil =>
      rw [Vehicle.start_of_empty (by rw [h]; rfl)]
      constructor
      · intro hn
        cases hn
        exact ⟨rfl, rfl⟩
      · rintro ⟨-, rfl⟩
        rfl
    | cons routine routines =>
      have hs : object.asVehicle.slot = some routine := by rw [h]; rfl
      rw [Vehicle.start_of_slot hs]
      constructor
      · -- Whatever a routine does, it is no fault of the slot.
        intro hn
        cases hw : routine.run object.asVehicle machine.sink with
        | ok _ _ => cases (Machine.writing_of_ok hw).symm.trans hn
        | error _ _ => cases (Machine.writing_of_error hw).symm.trans hn
      · rintro ⟨hn, -⟩
        cases hn

/-! ## What an operation does to the objects -/

/-- The object that an operation makes, changes or drops. -/
def Operation.target? : Operation ρ → Option String
  | .create _ name | .zeroed (.object _) name | .assign name _ | .copySlot _ name | .drop name =>
    some name
  | _ => none

/-- The class of the object that an operation makes. -/
def Operation.makes? : Operation ρ → Option Kind
  | .create kind _ | .zeroed (.object kind) _ => some kind
  | _ => none

/-- There are two ways to make an object. -/
theorem Operation.eq_of_makes? {operation : Operation ρ} {kind : Kind}
    (h : operation.makes? = some kind) :
    ∃ name, operation = .create kind name ∨ operation = .zeroed (.object kind) name := by
  cases operation with
  | create _ name =>
    cases h
    exact ⟨name, .inl rfl⟩
  | zeroed storage name =>
    cases storage with
    | object _ =>
      cases h
      exact ⟨name, .inr rfl⟩
    | plain _ => cases h
  | _ => cases h

/-- Whether the operation was performed. -/
def Reply.succeeded : Reply → Bool
  | .done | .zeroed | .inspected _ _ => true
  | .failed _ | .noSuchObject _ | .emptySlot _ => false

/-- What an operation does to some objects, and what is replied. Whether there is storage for the
    object that it makes, if any, is given. -/
inductive Effect (objects : Std.ExtTreeMap String (Object ρ)) (supplied : Bool) :
    Operation ρ → Reply → Std.ExtTreeMap String (Object ρ) → Prop
  /-- A new object has the routine of its class. -/
  | create (kind : Kind) (name : String) (h : supplied = true) :
    Effect objects supplied (.create kind name) .done
      (objects.insert name (kind.holding (some kind.routine)))
  /-- Zeroed storage is an object with an empty slot. -/
  | zeroed (kind : Kind) (name : String) (h : supplied = true) :
    Effect objects supplied (.zeroed (.object kind) name) .zeroed
      (objects.insert name (kind.holding none))
  /-- There is no storage for an object. -/
  | refused {operation : Operation ρ} {kind : Kind} (fault : Fault)
    (hm : operation.makes? = some kind) (h : supplied = false) :
    Effect objects supplied operation (.failed fault) objects
  /-- A routine is put into a slot. -/
  | assign {name : String} {object : Object ρ} (routine : Routine ρ)
    (h : objects[name]? = some object) :
    Effect objects supplied (.assign name routine) .done
      (objects.insert name (object.assign routine))
  /-- There is no slot to put a routine into. -/
  | assignNowhere {name : String} (routine : Routine ρ) (h : objects[name]? = none) :
    Effect objects supplied (.assign name routine) (.noSuchObject name) objects
  /-- The routine in one slot is put into another, which may be the same. -/
  | copy {source target : String} {giver taker : Object ρ} {routine : Routine ρ}
    (hs : objects[source]? = some giver) (hr : giver.asVehicle.slot = some routine)
    (ht : objects[target]? = some taker) :
    Effect objects supplied (.copySlot source target) .done
      (objects.insert target (taker.assign routine))
  /-- There is no slot to copy from. -/
  | copyFromNowhere {source target : String} (h : objects[source]? = none) :
    Effect objects supplied (.copySlot source target) (.noSuchObject source) objects
  /-- There is nothing to copy. -/
  | copyNothing {source target : String} {giver : Object ρ}
    (hs : objects[source]? = some giver) (hr : giver.asVehicle.slot = none) :
    Effect objects supplied (.copySlot source target) (.emptySlot source) objects
  /-- There is no slot to copy to. -/
  | copyToNowhere {source target : String} {giver : Object ρ} {routine : Routine ρ}
    (hs : objects[source]? = some giver) (hr : giver.asVehicle.slot = some routine)
    (ht : objects[target]? = none) :
    Effect objects supplied (.copySlot source target) (.noSuchObject target) objects
  /-- An object is dropped. -/
  | drop {name : String} {object : Object ρ} (h : objects[name]? = some object) :
    Effect objects supplied (.drop name) .done (objects.erase name)
  /-- There is nothing to drop. -/
  | dropNothing {name : String} (h : objects[name]? = none) :
    Effect objects supplied (.drop name) (.noSuchObject name) objects
  /-- The operation does not make, change or drop an object. -/
  | none {operation : Operation ρ} (reply : Reply) (h : operation.target? = none) :
    Effect objects supplied operation reply objects

namespace Effect

variable {objects objects' : Std.ExtTreeMap String (Object ρ)} {supplied : Bool}
  {operation : Operation ρ} {reply : Reply}

/-- Other objects stay as they are, and all objects do if the operation fails. -/
theorem frame (he : Effect objects supplied operation reply objects') {name : String}
    (h : reply.succeeded = true → operation.target? ≠ some name) :
    objects'[name]? = objects[name]? := by
  cases he with
  | create _ _ _ | zeroed _ _ _ | assign _ _ | copy _ _ _ =>
    have hn := h rfl
    rw [Operation.target?, Ne, Option.some.injEq] at hn
    rw [Std.ExtTreeMap.getElem?_insert, if_neg (by simpa using hn)]
  | drop _ =>
    have hn := h rfl
    rw [Operation.target?, Ne, Option.some.injEq] at hn
    rw [Std.ExtTreeMap.getElem?_erase, if_neg (by simpa using hn)]
  | refused _ _ _ | assignNowhere _ _ | copyFromNowhere _ | copyNothing _ _ | copyToNowhere _ _ _
  | dropNothing _ | none _ _ => rfl

/-- An object is made if and only if there is storage for it. -/
theorem succeeded_eq (he : Effect objects supplied operation reply objects') {kind : Kind}
    (hm : operation.makes? = some kind) : reply.succeeded = supplied := by
  cases he with
  | create _ _ h | zeroed _ _ h | refused _ _ h => exact h.symm
  | assign _ _ | assignNowhere _ _ | copy _ _ _ | copyFromNowhere _ | copyNothing _ _
  | copyToNowhere _ _ _ | drop _ | dropNothing _ => cases hm
  | none _ h =>
    -- What makes an object has a target.
    obtain ⟨_, rfl | rfl⟩ := Operation.eq_of_makes? hm <;> cases h

end Effect

namespace Session

theorem create_eq (kind : Kind) :
    create kind = (do
      Machine.allocate (Storage.object kind).layout
      return kind.holding (some kind.routine) : Action (Object ρ)) := by
  cases kind with
  | vehicle => simp only [create, Vehicle.create, Vehicle.zeroed, bind_assoc, pure_bind]; rfl
  | truck => simp only [create, Truck.create, Truck.zeroed, bind_assoc, pure_bind]; rfl

theorem zeroed_eq (kind : Kind) :
    zeroed kind = (do
      Machine.allocate (Storage.object kind).layout
      return kind.holding none : Action (Object ρ)) := by
  cases kind with
  | vehicle => simp only [zeroed, Vehicle.zeroed, bind_assoc, pure_bind]; rfl
  | truck => simp only [zeroed, Truck.zeroed, bind_assoc, pure_bind]; rfl

variable {session : Session ρ} {operation : Operation ρ}

/-- Whether there is storage for the object that an operation makes, if it makes one. -/
def supplies (session : Session ρ) (operation : Operation ρ) : Bool :=
  operation.makes?.all fun kind => session.machine.Meets (Storage.object kind).layout

theorem supplies_iff {kind : Kind} (h : operation.makes? = some kind) :
    session.supplies operation = true ↔ session.machine.Meets (Storage.object kind).layout := by
  simp [supplies, h]

/-- What a step does to the objects of a session, and what is replied, is an effect of the
    operation. -/
def Shows (session : Session ρ) (operation : Operation ρ) (result : Session ρ × Reply) : Prop :=
  Effect session.objects (session.supplies operation) operation result.2 result.1.objects

/-- An object is made when there is storage for it. -/
theorem shows_act_allocate {kind : Kind} {object : Object ρ} {name : String} {reply : Reply}
    (hm : operation.makes? = some kind)
    (h : session.supplies operation = true → ∀ machine,
      session.Shows operation (keep { session with machine } name object, reply)) :
    session.Shows operation (session.act
      (do Machine.allocate (Storage.object kind).layout; return object)
      fun session object => (session.keep name object, reply)) := by
  simp only [act, bind, EStateM.bind]
  cases ha : Machine.allocate (Storage.object kind).layout session.machine with
  | ok _ machine => exact h ((supplies_iff hm).2 ⟨machine, ha⟩) machine
  | error fault machine =>
    refine .refused fault hm (Bool.eq_false_iff.2 fun hs => ?_)
    obtain ⟨_, hok⟩ := (supplies_iff hm).1 hs
    cases ha.symm.trans hok

/-- An action on the machine does nothing to the objects. -/
theorem shows_act {α : Type} {action : Action α} {reply : Reply} (h : operation.target? = none) :
    session.Shows operation (session.act action fun session _ => (session, reply)) := by
  rw [act]
  cases action session.machine <;> exact .none _ h

theorem shows_withObject {name : String} {next : Object ρ → Session ρ × Reply}
    (hn : session.objects[name]? = none →
      session.Shows operation (session, .noSuchObject name))
    (h : ∀ object, session.objects[name]? = some object →
      session.Shows operation (next object)) :
    session.Shows operation (session.withObject name next) := by
  rw [withObject]
  cases ho : session.objects[name]? with
  | none => exact hn ho
  | some object => exact h object ho

theorem shows_perform [Behaviour ρ] (session : Session ρ) (operation : Operation ρ) :
    session.Shows operation (session.perform operation) := by
  cases operation with
  | heap _ | sink _ _ _ => exact .none _ rfl
  | create kind name =>
    rw [perform, create_eq]
    exact shows_act_allocate rfl fun hs _ => .create kind name hs
  | zeroed storage name =>
    cases storage with
    | object kind =>
      rw [perform, zeroed_eq]
      exact shows_act_allocate rfl fun hs _ => .zeroed kind name hs
    | plain layout => exact shows_act rfl
  | assign name routine =>
    exact shows_withObject (.assignNowhere routine) fun object ho => .assign routine ho
  | copySlot source target =>
    refine shows_withObject .copyFromNowhere fun giver hs => ?_
    cases hr : giver.asVehicle.slot with
    | none => exact .copyNothing hs hr
    | some routine =>
      exact shows_withObject (.copyToNowhere hs hr) fun taker ht => .copy hs hr ht
  | start _ _ | call _ _ => exact shows_withObject (fun _ => .none _ rfl) fun _ _ => shows_act rfl
  | inspect _ => exact shows_withObject (fun _ => .none _ rfl) fun _ _ => .none _ rfl
  | drop name => exact shows_withObject .dropNothing fun object ho => .drop ho
  | dispatch | dumpClasses | hello _ | sum _ | time => exact shows_act rfl

/-- The session while the allocator is going to give these answers. -/
def answering (session : Session ρ) (answers : List Bool) : Session ρ :=
  { session with machine := { session.machine with answers } }

theorem shows_performWith [Behaviour ρ] (session : Session ρ) (answers : List Bool)
    (operation : Operation ρ) :
    (session.answering answers).Shows operation (session.performWith answers operation) :=
  shows_perform (session.answering answers) operation

/-! ## Starting an object by its name -/

/-- The session that an action on the machine leaves, with the reply. The allocator has no answers
    left. -/
def closing (session : Session ρ) : EStateM.Result Fault Machine Unit → Session ρ × Reply
  | .ok () machine => (answering { session with machine } [], .done)
  | .error fault machine => (answering { session with machine } [], .failed fault)

theorem performWith_start_of_none [Behaviour ρ] {session : Session ρ} {name : String}
    (h : session.objects[name]? = none) (answers : List Bool) (route : Route) :
    session.performWith answers (.start name route) =
      (session.answering [], .noSuchObject name) := by
  simp only [performWith, perform, withObject, h]
  rfl

/-- To start an object by its name is to start it. -/
theorem performWith_start [Behaviour ρ] {session : Session ρ} {name : String} {object : Object ρ}
    (h : session.objects[name]? = some object) (answers : List Bool) (route : Route) :
    session.performWith answers (.start name route) =
      session.closing (object.start route (session.answering answers).machine) := by
  simp only [performWith, perform, withObject, h, run, act, answering]
  cases object.start route { session.machine with answers } <;> rfl

theorem performWith_inspect [Behaviour ρ] {session : Session ρ} {name : String} {object : Object ρ}
    (h : session.objects[name]? = some object) (answers : List Bool) :
    session.performWith answers (.inspect name) = (session.answering [],
      .inspected object.asVehicle.descriptor
        (object.asVehicle.slot.map (trial · object.asVehicle))) := by
  simp only [performWith, perform, withObject, h]
  rfl

/-- Whatever becomes of it, a call of `start` changes nothing but the sink. -/
theorem start_changes_sink [Behaviour ρ] (object : Object ρ) (route : Route) (machine : Machine) :
    ∃ sink, (object.start route machine = .ok () { machine with sink }) ∨
      ∃ fault, object.start route machine = .error fault { machine with sink } := by
  rw [object.start_eq]
  cases hs : object.asVehicle.slot with
  | none =>
    rw [Vehicle.start_of_empty hs]
    exact ⟨machine.sink, .inr ⟨_, rfl⟩⟩
  | some routine =>
    rw [Vehicle.start_of_slot hs]
    cases hw : routine.run object.asVehicle machine.sink with
    | ok _ sink => exact ⟨sink, .inl (Machine.writing_of_ok hw)⟩
    | error _ sink => exact ⟨sink, .inr ⟨_, Machine.writing_of_error hw⟩⟩

theorem exists_performWith_start [Behaviour ρ] (session : Session ρ) (answers : List Bool)
    (name : String) (route : Route) :
    ∃ sink, (session.performWith answers (.start name route)).1 =
      { session with machine := { session.machine with sink, answers := [] } } := by
  cases ho : session.objects[name]? with
  | none =>
    rw [performWith_start_of_none ho]
    exact ⟨session.machine.sink, rfl⟩
  | some object =>
    rw [performWith_start ho]
    obtain ⟨sink, hs | ⟨fault, hs⟩⟩ :=
      start_changes_sink object route (session.answering answers).machine
    · rw [hs]
      exact ⟨sink, rfl⟩
    · rw [hs]
      exact ⟨sink, rfl⟩

end Session

end SlotDispatch
