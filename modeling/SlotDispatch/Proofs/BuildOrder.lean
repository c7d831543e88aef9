import SlotDispatch.Program
import SlotDispatch.Proofs.Building

/-!
# The order in which classes are built

Each class that is built is noted. The notes come neither in the order of the declarations nor in
one that is worked out beforehand: each declaration adds that part of its chain which is missing,
from the upper end down. Still they tell the whole story of the table (`ClassTable.Recorded`): every
class is noted once, with the slots that it has in the end, and its superclass is noted before it.

* `Recorded.step`: that stays so when a class is built over those that are there;
* `Reached.recorded`: so it holds of all states that the building can come to;
* `buildClasses_eq_ok`: what is noted is what was built.
-/

namespace SlotDispatch.ClassTable

variable {table : ClassTable} {decls : List Declaration} {decl : Declaration}
  {descriptor : Descriptor} {progress : Progress}

/-- A place in a list with a new last item is the last one, or a place in the list. -/
theorem snoc_eq_append_cons {α : Type} {l before after : List α} {last a : α}
    (h : l ++ [last] = before ++ a :: after) :
    (before = l ∧ a = last) ∨ ∃ after', l = before ++ a :: after' := by
  rcases List.eq_nil_or_concat after with rfl | ⟨after', b, rfl⟩
  · obtain ⟨hl, ha⟩ := List.append_inj' h rfl
    exact .inl ⟨hl.symm, (List.singleton_inj.1 ha).symm⟩
  · rw [List.concat_eq_append, ← List.cons_append, ← List.append_assoc] at h
    exact .inr ⟨after', (List.append_inj' h rfl).1⟩

/-- The records tell how the table came about. -/
structure Recorded (progress : Progress) : Prop where
  /-- No class is recorded twice. -/
  nodup : (progress.trace.map (·.name)).Nodup
  /-- The classes in the table are recorded, and no others. -/
  mem_iff : ∀ name, name ∈ progress.trace.map (·.name) ↔ progress.table.contains name = true
  /-- A record has the number of slots of its class, and comes after that of the superclass. -/
  entry : ∀ {before record after}, progress.trace = before ++ record :: after →
    ∃ descriptor, progress.table.get? record.name = some descriptor ∧
      record.slots = descriptor.table.size ∧
      ∀ base, descriptor.superclass = some base → base ∈ before.map (·.name)

theorem recorded_start : Recorded {} where
  nodup := List.nodup_nil
  mem_iff name := by simp [contains]
  entry h := by simp at h

/-- One more class is recorded last, when its superclass is there. -/
theorem Recorded.step (h : Recorded progress) (fresh : progress.table.get? decl.name = none)
    (founded : progress.table.Founded decl descriptor) :
    Recorded {
      table := progress.table.insert decl.name descriptor
      trace := progress.trace ++ [⟨decl.name, descriptor.table.size⟩] } where
  nodup := by
    have hn : decl.name ∉ progress.trace.map (·.name) := by
      rw [h.mem_iff, contains, fresh]
      exact Bool.false_ne_true
    rw [List.map_append, List.map_singleton, ← List.concat_eq_append]
    exact h.nodup.concat hn
  mem_iff name := by
    rw [List.map_append, List.mem_append, h.mem_iff, contains_insert, List.map_singleton,
      List.mem_singleton, or_comm, eq_comm]
  entry {before record after} he := by
    rcases snoc_eq_append_cons he with ⟨rfl, rfl⟩ | ⟨after', he⟩
    · -- The new class: its superclass is in the table, so it is recorded.
      refine ⟨descriptor, by rw [get?_insert, if_pos rfl], rfl, fun base hs => ?_⟩
      rw [(Descriptor.fields_of_build founded.built).2.1] at hs
      exact (h.mem_iff base).2 (founded.above base hs)
    · obtain ⟨found, hg, hrest⟩ := h.entry he
      exact ⟨found, within_insert fresh hg, hrest⟩

theorem Reached.recorded (h : Reached decls progress) : Recorded progress := by
  induction h with
  | start => exact recorded_start
  | step _ _ fresh founded ih => exact ih.step fresh founded

/-! ## What is noted -/

theorem forM_note (records : List Built) (machine : Machine) :
    (records.forM fun record => Machine.note (.built record)) machine =
      .ok () { machine with notes := machine.notes ++ records.map .built } := by
  induction records generalizing machine with
  | nil =>
    rw [List.map_nil, List.append_nil]
    rfl
  | cons record records ih =>
    refine (ih { machine with notes := machine.notes ++ [.built record] }).trans ?_
    rw [List.append_assoc, List.singleton_append, List.map_cons]

/-- Where the classes can be built, that is all that happens: the records are noted. -/
theorem buildClasses_eq_ok (h : build decls = .ok table) (machine : Machine) :
    Program.buildClasses decls machine =
      .ok table { machine with notes := machine.notes ++ (buildTrace decls).map .built } := by
  rw [Program.buildClasses, h]
  change EStateM.bind _ _ machine = _
  rw [EStateM.bind, forM_note]
  rfl

/-- Where the declared classes can be built, in whatever order they are declared and however often,
    the notes that are made tell of each class of the table once and of nothing else. A class is
    noted after its superclass, with the number of slots that it has in the table. -/
theorem built_once_after_superclass (h : build decls = .ok table) (machine : Machine) :
    Program.buildClasses decls machine =
        .ok table { machine with notes := machine.notes ++ (buildTrace decls).map .built } ∧
      ((buildTrace decls).map (·.name)).Nodup ∧
      (∀ name, name ∈ (buildTrace decls).map (·.name) ↔ table.contains name = true) ∧
      ∀ before record after, buildTrace decls = before ++ record :: after →
        ∃ descriptor, table.get? record.name = some descriptor ∧
          Note.text (.built record) = "built metadata of " ++ record.name.text ++ " (" ++
            toString descriptor.table.size ++ " slots)" ∧
          ∀ base, descriptor.superclass = some base → base ∈ before.map (·.name) := by
  have hr := (realizes_buildTrace h).reached.recorded
  refine ⟨buildClasses_eq_ok h machine, hr.nodup, hr.mem_iff, fun before record after he => ?_⟩
  obtain ⟨descriptor, hg, hslots, habove⟩ := hr.entry he
  refine ⟨descriptor, hg, ?_, habove⟩
  rw [← hslots]
  rfl

/-- `Truck` is declared before `Lorry` and noted after it. -/
theorem built_once_after_superclass_twiceDeclared :
    ∃ table truck, build twiceDeclared = .ok table ∧
      buildTrace twiceDeclared = [⟨⟨"Vehicle"⟩, 1⟩, ⟨⟨"Lorry"⟩, 3⟩, ⟨⟨"Truck"⟩, 3⟩] ∧
      table.contains ⟨"Lorry"⟩ = true ∧ table.get? ⟨"Truck"⟩ = some truck ∧
      "built metadata of Truck (3 slots)" = "built metadata of Truck (" ++
        toString truck.table.size ++ " slots)" ∧
      ∀ base, truck.superclass = some base →
        base ∈ [(⟨"Vehicle"⟩ : ClassName), ⟨"Lorry"⟩] := by
  obtain ⟨table, h⟩ : ∃ table, build twiceDeclared = .ok table :=
    exists_of_isOk (by decide +kernel)
  have ht : buildTrace twiceDeclared = [⟨⟨"Vehicle"⟩, 1⟩, ⟨⟨"Lorry"⟩, 3⟩, ⟨⟨"Truck"⟩, 3⟩] := by
    decide +kernel
  obtain ⟨_, _, hmem, hentry⟩ := built_once_after_superclass h { clock := ⟨0, 0, 0, ""⟩ }
  obtain ⟨truck, hg, htext, habove⟩ :=
    hentry [⟨⟨"Vehicle"⟩, 1⟩, ⟨⟨"Lorry"⟩, 3⟩] ⟨⟨"Truck"⟩, 3⟩ [] ht
  exact ⟨table, truck, h, ht, (hmem _).1 (by rw [ht]; decide), hg, htext, habove⟩

end SlotDispatch.ClassTable
