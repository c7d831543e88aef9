import Mathlib.Logic.Function.Basic
import SlotDispatch.Proofs.Effects
import SlotDispatch.Sample

/-!
# What is in the slots of a session

Operations follow one another in a session: objects are made, their slots are assigned and copied,
they are started and dropped, storage is refused, sinks fail. What has been asked is written down,
together with whether there was storage for it (`Chronicle`). From that, and not from what was
replied, one knows which objects there are, of which classes, and which routines were assigned to
each of them since it was made (`Past.known`).

* `Knowledge.Describes.step`: what one knows after an operation describes what it has made of the
  objects;
* `Chronicle.describes_after`: so what has happened determines every object of the session: it has
  no descriptor, and in its slot is the routine that was assigned last;
* `Effect.reply_eq`: it also determines what is replied to an assignment, a copy or a drop.
-/

namespace SlotDispatch

variable {ρ : Type}

/-! ## What has happened -/

/-- An operation that was asked for. -/
structure Entry (ρ : Type) where
  /-- The operation. -/
  operation : Operation ρ
  /-- Whether there was storage for the object that it makes, if it makes one. -/
  supplied : Bool

/-- What has happened in a session, the latest first. -/
abbrev Past (ρ : Type) := List (Entry ρ)

/-- What is known of an object. -/
structure Known (ρ : Type) where
  /-- Its class. -/
  kind : Kind
  /-- The routines that were assigned to it since it was made, the latest first. -/
  assigned : List (Routine ρ)
deriving DecidableEq

/-- One more routine is assigned. -/
def Known.assign (known : Known ρ) (routine : Routine ρ) : Known ρ :=
  { known with assigned := routine :: known.assigned }

/-- The object of which this is known: in its slot is what was assigned last. -/
def Known.object (known : Known ρ) : Object ρ := known.kind.holding known.assigned.head?

/-- What is known of the object of each name, if there is one. -/
abbrev Knowledge (ρ : Type) := String → Option (Known ρ)

/-- What is known of the objects after an operation, given what was known of them before. An
    assignment, a copy or a drop counts whenever its objects are there, and an object that replaces
    another one of its name has nothing of it. -/
def Entry.learn (entry : Entry ρ) (known : Knowledge ρ) : Knowledge ρ :=
  match entry.operation with
  | .create kind name =>
    if entry.supplied then Function.update known name (some ⟨kind, [kind.routine]⟩) else known
  | .zeroed (.object kind) name =>
    if entry.supplied then Function.update known name (some ⟨kind, []⟩) else known
  | .assign name routine => Function.update known name ((known name).map (·.assign routine))
  | .copySlot source target =>
    match (known source).bind (·.assigned.head?) with
    | none => known
    | some routine => Function.update known target ((known target).map (·.assign routine))
  | .drop name => Function.update known name none
  | _ => known

/-- What is known of the objects after all that has happened. -/
def Past.known : Past ρ → Knowledge ρ
  | [] => fun _ => none
  | entry :: past => entry.learn (Past.known past)

/-- What is to be replied to an assignment, a copy or a drop, by what is known of the objects. To
    copy a slot, its object must be there, then have something in it, and then the other object must
    be there. -/
def Operation.due? (known : Knowledge ρ) : Operation ρ → Option Reply
  | .assign name _ | .drop name =>
    some (if (known name).isSome then .done else .noSuchObject name)
  | .copySlot source target =>
    match known source with
    | none => some (.noSuchObject source)
    | some giver =>
      if giver.assigned = [] then some (.emptySlot source)
      else some (if (known target).isSome then .done else .noSuchObject target)
  | _ => none

/-- A session with what has happened in it. -/
structure Chronicle (ρ : Type) where
  /-- The session as it is now. -/
  session : Session ρ
  /-- What has happened. -/
  past : Past ρ := []

namespace Chronicle

variable [Behaviour ρ]

/-- Performs an operation and writes it down. -/
def record (chronicle : Chronicle ρ) (move : List Bool × Operation ρ) : Chronicle ρ where
  session := (chronicle.session.performWith move.1 move.2).1
  past := ⟨move.2, (chronicle.session.answering move.1).supplies move.2⟩ :: chronicle.past

/-- A session that began with a machine and no objects, after some operations. With each comes what
    the allocator answers meanwhile. -/
def after (machine : Machine) (moves : List (List Bool × Operation ρ)) : Chronicle ρ :=
  moves.foldl record { session := { machine } }

end Chronicle

/-! ## What is known and what is there -/

/-- What is known describes some objects: which there are, and what is in their slots. -/
def Knowledge.Describes (known : Knowledge ρ) (objects : Std.ExtTreeMap String (Object ρ)) : Prop :=
  ∀ name, objects[name]? = (known name).map Known.object

namespace Knowledge.Describes

variable {known : Knowledge ρ} {objects objects' : Std.ExtTreeMap String (Object ρ)} {name : String}
  {object : Object ρ}

theorem getElem?_eq (h : known.Describes objects) {k : Known ρ} (hk : known name = some k) :
    objects[name]? = some k.object := by
  rw [h name, hk, Option.map_some]

theorem exists_known (h : known.Describes objects) (ho : objects[name]? = some object) :
    ∃ k, known name = some k ∧ object = k.object := by
  rw [h name, Option.map_eq_some_iff] at ho
  obtain ⟨k, hk, he⟩ := ho
  exact ⟨k, hk, he.symm⟩

theorem known_eq_none (h : known.Describes objects) (ho : objects[name]? = none) :
    known name = none := by
  rwa [h name, Option.map_eq_none_iff] at ho

/-- What is in the slot of an object is what was assigned last. -/
theorem exists_of_slot (h : known.Describes objects) (ho : objects[name]? = some object) :
    ∃ k, known name = some k ∧ object.asVehicle.slot = k.assigned.head? := by
  obtain ⟨k, hk, rfl⟩ := h.exists_known ho
  refine ⟨k, hk, ?_⟩
  rw [Known.object, Kind.asVehicle_holding]

theorem insert (h : known.Describes objects) (name : String) (k : Known ρ) :
    Describes (Function.update known name (some k)) (objects.insert name k.object) := by
  intro other
  rw [Std.ExtTreeMap.getElem?_insert, Function.update_apply]
  by_cases he : other = name
  · simp [he]
  · rw [if_neg he, if_neg (by simpa using fun h => he h.symm), h other]

theorem erase (h : known.Describes objects) (name : String) :
    Describes (Function.update known name none) (objects.erase name) := by
  intro other
  rw [Std.ExtTreeMap.getElem?_erase, Function.update_apply]
  by_cases he : other = name
  · simp [he]
  · rw [if_neg he, if_neg (by simpa using fun h => he h.symm), h other]

/-- One more routine is put into the slot of an object that is there. -/
theorem assign (h : known.Describes objects) (ho : objects[name]? = some object)
    (routine : Routine ρ) :
    Describes (Function.update known name ((known name).map (·.assign routine)))
      (objects.insert name (object.assign routine)) := by
  obtain ⟨k, hk, rfl⟩ := h.exists_known ho
  have hr : k.object.assign routine = (k.assign routine).object := k.kind.assign_holding _ routine
  rw [hk, Option.map_some, hr]
  exact h.insert name (k.assign routine)

/-- Where there is no object, there is nothing to be known after an assignment or a drop. -/
theorem update_eq_self (h : known.Describes objects) (ho : objects[name]? = none)
    (f : Option (Known ρ) → Option (Known ρ)) (hf : f none = none) :
    Function.update known name (f (known name)) = known := by
  have hk := h.known_eq_none ho
  rw [Function.update_eq_self_iff, hk, hf]

/-- What is known after an operation describes what it has made of the objects. -/
theorem step (h : known.Describes objects) {operation : Operation ρ} {supplied : Bool}
    {reply : Reply} (he : Effect objects supplied operation reply objects') :
    Describes (Entry.learn ⟨operation, supplied⟩ known) objects' := by
  cases he with
  | create kind target hs =>
    simp only [Entry.learn, if_pos hs]
    exact h.insert target ⟨kind, [kind.routine]⟩
  | zeroed kind target hs =>
    simp only [Entry.learn, if_pos hs]
    exact h.insert target ⟨kind, []⟩
  | refused fault hm hs =>
    obtain ⟨_, rfl | rfl⟩ := Operation.eq_of_makes? hm
    · simpa only [Entry.learn, hs, Bool.false_eq_true, if_false] using h
    · simpa only [Entry.learn, hs, Bool.false_eq_true, if_false] using h
  | assign routine ho => exact h.assign ho routine
  | assignNowhere routine ho =>
    simp only [Entry.learn]
    rwa [h.update_eq_self ho (Option.map (·.assign routine)) rfl]
  | copy hs hr ho =>
    obtain ⟨k, hk, hl⟩ := h.exists_of_slot hs
    simp only [Entry.learn, hk, Option.bind_some, ← hl, hr]
    exact h.assign ho _
  | copyFromNowhere ho => simpa only [Entry.learn, h.known_eq_none ho, Option.bind_none] using h
  | copyNothing hs hr =>
    obtain ⟨k, hk, hl⟩ := h.exists_of_slot hs
    simpa only [Entry.learn, hk, Option.bind_some, ← hl, hr] using h
  | @copyToNowhere _ _ _ routine hs hr ho =>
    obtain ⟨k, hk, hl⟩ := h.exists_of_slot hs
    simp only [Entry.learn, hk, Option.bind_some, ← hl, hr]
    rwa [h.update_eq_self ho (Option.map (·.assign routine)) rfl]
  | drop _ => exact h.erase _
  | dropNothing ho =>
    simp only [Entry.learn]
    rwa [h.update_eq_self ho (fun _ => none) rfl]
  | none _ ht =>
    cases operation with
    | zeroed storage _ =>
      cases storage with
      | object _ => cases ht
      | plain _ => exact h
    | create _ _ | assign _ _ | copySlot _ _ | drop _ => cases ht
    | _ => exact h

end Knowledge.Describes

/-- What is replied to an assignment, a copy or a drop is due by what is known of the objects. -/
theorem Effect.reply_eq {known : Knowledge ρ} {objects objects' : Std.ExtTreeMap String (Object ρ)}
    {supplied : Bool} {operation : Operation ρ} {reply due : Reply}
    (he : Effect objects supplied operation reply objects') (h : known.Describes objects)
    (hd : operation.due? known = some due) : reply = due := by
  cases he with
  | create _ _ _ | zeroed _ _ _ => cases hd
  | refused _ hm _ =>
    obtain ⟨_, rfl | rfl⟩ := Operation.eq_of_makes? hm <;> cases hd
  | assign _ ho | drop ho =>
    obtain ⟨k, hk, _⟩ := h.exists_known ho
    simpa [Operation.due?, hk] using hd
  | assignNowhere _ ho | dropNothing ho =>
    simpa [Operation.due?, h.known_eq_none ho] using hd
  | copyFromNowhere ho => simpa [Operation.due?, h.known_eq_none ho] using hd
  | copyNothing hs hr =>
    obtain ⟨k, hk, hl⟩ := h.exists_of_slot hs
    have hn : k.assigned = [] := List.head?_eq_none_iff.1 (hl.symm.trans hr)
    simpa [Operation.due?, hk, hn] using hd
  | copy hs hr ht =>
    obtain ⟨k, hk, hl⟩ := h.exists_of_slot hs
    obtain ⟨k', hk', _⟩ := h.exists_known ht
    have hn : k.assigned ≠ [] := fun hn => by simp [hn, hr] at hl
    simpa [Operation.due?, hk, hk', hn] using hd
  | copyToNowhere hs hr ht =>
    obtain ⟨k, hk, hl⟩ := h.exists_of_slot hs
    have hn : k.assigned ≠ [] := fun hn => by simp [hn, hr] at hl
    simpa [Operation.due?, hk, h.known_eq_none ht, hn] using hd
  | none _ ht =>
    cases operation with
    | assign _ _ | copySlot _ _ | drop _ => cases ht
    | _ => cases hd

namespace Chronicle

variable [Behaviour ρ]

theorem describes_foldl {chronicle : Chronicle ρ}
    (h : chronicle.past.known.Describes chronicle.session.objects)
    (moves : List (List Bool × Operation ρ)) :
    (moves.foldl record chronicle).past.known.Describes
      (moves.foldl record chronicle).session.objects := by
  induction moves generalizing chronicle with
  | nil => exact h
  | cons move moves ih =>
    exact ih (h.step (chronicle.session.shows_performWith move.1 move.2))

theorem describes_after (machine : Machine) (moves : List (List Bool × Operation ρ)) :
    (after machine moves).past.known.Describes (after machine moves).session.objects :=
  describes_foldl (fun _ => Std.ExtTreeMap.getElem?_empty) moves

/-- The objects of a session are as what has happened in it says, and the session deals with them
    accordingly. -/
structure Faithful (chronicle : Chronicle ρ) : Prop where
  /-- The objects are those that were made and not dropped since, with what was last assigned to
      them in their slots. -/
  objects : chronicle.past.known.Describes chronicle.session.objects
  /-- A call of `start` on one of them runs what was last assigned to it. -/
  starts : ∀ name known, chronicle.past.known name = some known →
    known.object.Starts known.assigned
  /-- To start one of them by its name is to start it: the call ends in the same way and leaves the
      same machine. -/
  calls : ∀ answers name known route, chronicle.past.known name = some known →
    chronicle.session.performWith answers (.start name route) =
      chronicle.session.closing
        (known.object.start route (chronicle.session.answering answers).machine)
  /-- No object shows a descriptor. -/
  inspections : ∀ answers name known, chronicle.past.known name = some known →
    ∃ trial, chronicle.session.performWith answers (.inspect name) =
      (chronicle.session.answering [], .inspected none trial)
  /-- Objects are made whenever there is storage for them, and only then. -/
  made : ∀ answers operation kind, operation.makes? = some kind →
    ((chronicle.session.performWith answers operation).2.succeeded = true ↔
      (chronicle.session.answering answers).machine.Meets (Storage.object kind).layout)
  /-- Routines are assigned to, and copied between, the objects that there are, and these can be
      dropped. -/
  replies : ∀ answers operation due, operation.due? chronicle.past.known = some due →
    (chronicle.session.performWith answers operation).2 = due
  /-- The next operation changes at most the object that it is about, and none if it fails. -/
  frame : ∀ answers operation name,
    ((chronicle.session.performWith answers operation).2.succeeded = true →
      operation.target? ≠ some name) →
    (chronicle.session.performWith answers operation).1.objects[name]? =
      chronicle.session.objects[name]?
  /-- A call of `start` changes nothing but the sink. -/
  start : ∀ answers name route, ∃ sink,
    (chronicle.session.performWith answers (.start name route)).1 =
      { chronicle.session with
        machine := { chronicle.session.machine with sink, answers := [] } }

theorem faithful_of_describes {chronicle : Chronicle ρ}
    (h : chronicle.past.known.Describes chronicle.session.objects) : chronicle.Faithful where
  objects := h
  starts _ known _ := Object.starts (known.kind.asVehicle_holding _)
  calls answers name known route hk :=
    Session.performWith_start (h.getElem?_eq hk) answers route
  inspections answers name known hk := by
    rw [Session.performWith_inspect (h.getElem?_eq hk), Known.object, Kind.asVehicle_holding]
    exact ⟨_, rfl⟩
  made answers operation kind hm := by
    rw [(chronicle.session.shows_performWith answers operation).succeeded_eq hm]
    exact Session.supplies_iff hm
  replies answers operation due hd :=
    (chronicle.session.shows_performWith answers operation).reply_eq h hd
  frame answers operation name hn :=
    (chronicle.session.shows_performWith answers operation).frame hn
  start := chronicle.session.exists_performWith_start

/-- In every session, whatever has happened in it, the objects and their slots are as the past says.
    However an object is started, the routine runs that was last assigned to it, and an assignment
    to an object that is there never fails. -/
theorem faithful_after (machine : Machine) (moves : List (List Bool × Operation ρ)) :
    (after machine moves).Faithful :=
  faithful_of_describes (describes_after machine moves)

/-- A truck is given another routine, which a spare vehicle gets from there. The allocator has no
    storage for a new vehicle in its place. Then the truck is dropped. -/
def hauling : List (List Bool × Operation Sample) :=
  [([], .create .truck "hauler"), ([], .zeroed (.object .vehicle) "spare"),
    ([], .assign "hauler" (.other .honk)), ([], .copySlot "hauler" "spare"),
    ([false], .create .vehicle "spare"), ([], .drop "hauler")]

/-- The spare vehicle is still there and sounds the horn, however it is started. The truck is not,
    so nothing can be copied from it any more. -/
theorem faithful_after_hauling :
    let session := (after Machine.ample hauling).session
    session.objects["spare"]? = some (.vehicle { slot := some (.other .honk) }) ∧
    (∀ route, ∃ next, session.performWith [] (.start "spare" route) = (next, .done) ∧
      next.machine.sink.written = Sink.bytesOf "honk\n") ∧
    session.objects["hauler"]? = none ∧
    (session.performWith [] (.copySlot "hauler" "spare")).2 = .noSuchObject "hauler" ∧
    (session.performWith [] (.assign "spare" .truckStart)).2 = .done := by
  intro session
  have hf : (after Machine.ample hauling).Faithful := faithful_after Machine.ample hauling
  have hs : (after Machine.ample hauling).past.known "spare" =
      some ⟨.vehicle, [.other .honk]⟩ := by decide +kernel
  have hh : (after Machine.ample hauling).past.known "hauler" = none := by decide +kernel
  have hsink : (session.answering []).machine.sink = {} := by decide +kernel
  refine ⟨?_, fun route => ?_, ?_, ?_, ?_⟩
  · exact hf.objects.getElem?_eq hs
  · have hw : (Routine.other Sample.honk).run { slot := some (.other .honk) }
        (session.answering []).machine.sink = .ok () { written := Sink.bytesOf "honk\n" } := by
      rw [hsink]
      exact Sink.writeAll_of_fits (Sink.fits_of_unlimited rfl)
    have hr := (hf.starts "spare" _ hs).passesOn _ rfl route _ _ hw
    exact ⟨_, (hf.calls [] "spare" _ route hs).trans (congrArg session.closing hr), rfl⟩
  · rw [hf.objects, hh]
    rfl
  · exact hf.replies _ _ _ (by simp [Operation.due?, hh])
  · exact hf.replies _ _ _ (by simp [Operation.due?, hs])

end Chronicle

end SlotDispatch
