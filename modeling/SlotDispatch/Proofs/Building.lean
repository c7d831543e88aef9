import SlotDispatch.Proofs.Hierarchy
import SlotDispatch.Proofs.Layout

/-!
# The building of a class table

A class table is built one class at a time. All that a step of the building can do is to add one
class that is not there yet, over classes that are: `ClassTable.Reached` are the states that such
steps lead to, for whatever order the declarations come in and however often a class is declared.

* `Reached.origin`: a class in the table is what its declaration makes of the classes in the table;
* `Reached.induction`: what passes from each class to those right below it holds of all classes;
* `Reached.acc`: the links from class to superclass end.

Building from declarations never leaves these states, and it stops early only if a class cannot be
built over those that are there, or has no place to be built in (`Stops`, `outcome_buildAll`); then
the declarations have the fault that is reported. If it does not stop early, all declared classes
are there (`ClassTable.Realizes`), and the table is a fixed point of the declarations
(`build_fixpoint`).
-/

namespace SlotDispatch.ClassTable

open Declaration (Ascent Chosen Lost Up)

variable {table other : ClassTable} {decls : List Declaration} {decl : Declaration}
  {name : ClassName} {descriptor : Descriptor} {progress next : Progress}

theorem contains_iff_get? :
    table.contains name = true ↔ ∃ descriptor, table.get? name = some descriptor :=
  Option.isSome_iff_exists

/-! ## Tables within tables -/

/-- All classes of `table` are in `other`, with the same descriptors. -/
def Within (table other : ClassTable) : Prop :=
  ∀ ⦃name descriptor⦄, table.get? name = some descriptor → other.get? name = some descriptor

theorem Within.refl (table : ClassTable) : table.Within table := fun _ _ h => h

theorem Within.trans {third : ClassTable} (h : table.Within other) (h' : other.Within third) :
    table.Within third := fun _ _ ht => h' (h ht)

theorem Within.contains (h : table.Within other) (hc : table.contains name = true) :
    other.contains name = true := by
  obtain ⟨descriptor, hd⟩ := contains_iff_get?.1 hc
  exact contains_iff_get?.2 ⟨descriptor, h hd⟩

theorem within_insert (h : table.get? name = none) :
    table.Within (table.insert name descriptor) := by
  intro other found ho
  rw [get?_insert, if_neg, ho]
  rintro rfl
  rw [h] at ho
  cases ho

/-- What is in a table after an insertion is what was inserted, or it was there before. -/
theorem get?_of_insert {other : ClassName} {found : Descriptor}
    (h : (table.insert name descriptor).get? other = some found) :
    (name = other ∧ descriptor = found) ∨ table.get? other = some found := by
  rw [get?_insert] at h
  split_ifs at h with he
  · exact .inl ⟨he, Option.some.inj h⟩
  · exact .inr h

theorem contains_insert {other : ClassName} :
    (table.insert name descriptor).contains other = true ↔
      name = other ∨ table.contains other = true := by
  rw [contains, get?_insert]
  split_ifs with he
  · exact ⟨fun _ => .inl he, fun _ => rfl⟩
  · exact ⟨.inr, fun h => h.resolve_left he⟩

/-! ## One step -/

/-- The descriptor is what the declaration makes of the classes in the table, with the superclass
    among them. -/
structure Founded (table : ClassTable) (decl : Declaration) (descriptor : Descriptor) : Prop where
  /-- The superclass is there. -/
  above : ∀ base, decl.superclass = some base → table.contains base = true
  /-- The class is built on it. -/
  built : Descriptor.build (decl.superclass.bind table.get?) decl = .ok descriptor

theorem Founded.mono (h : table.Founded decl descriptor) (hw : table.Within other) :
    other.Founded decl descriptor := by
  refine ⟨fun base hs => hw.contains (h.above base hs), ?_⟩
  have hb := h.built
  cases hs : decl.superclass with
  | none => rwa [hs] at hb
  | some base =>
    obtain ⟨found, hf⟩ := contains_iff_get?.1 (h.above base hs)
    rw [hs, Option.bind_some, hf] at hb
    rwa [Option.bind_some, hw hf]

/-- The states that the building of the declared classes can come to: each step adds a class over
    those that are there. -/
inductive Reached (decls : List Declaration) : Progress → Prop
  | start : Reached decls {}
  | step {progress : Progress} {decl : Declaration} {descriptor : Descriptor}
      (before : Reached decls progress) (chosen : Chosen decls decl)
      (fresh : progress.table.get? decl.name = none)
      (founded : progress.table.Founded decl descriptor) :
      Reached decls {
        table := progress.table.insert decl.name descriptor
        trace := progress.trace ++ [⟨decl.name, descriptor.table.size⟩] }

/-- Every class in the table is founded on the others by its first or its last declaration. -/
theorem Reached.origin (h : Reached decls progress)
    (hg : progress.table.get? name = some descriptor) :
    ∃ decl, Chosen decls decl ∧ decl.name = name ∧ progress.table.Founded decl descriptor := by
  induction h generalizing name descriptor with
  | start =>
    rw [get?_empty] at hg
    cases hg
  | @step _ decl _ before chosen fresh founded ih =>
    -- What is founded stays so: the superclass is in the table, and a step changes no class.
    rcases get?_of_insert hg with ⟨rfl, rfl⟩ | hg
    · exact ⟨decl, chosen, rfl, founded.mono (within_insert fresh)⟩
    · obtain ⟨decl', hc, he, hf⟩ := ih hg
      exact ⟨decl', hc, he, hf.mono (within_insert fresh)⟩

theorem Reached.get?_eq_none (h : Reached decls progress)
    (hn : ∀ decl ∈ decls, decl.name ≠ name) : progress.table.get? name = none := by
  cases hg : progress.table.get? name with
  | none => rfl
  | some descriptor =>
    obtain ⟨decl, hc, he, _⟩ := h.origin hg
    exact absurd he (hn decl hc.mem)

/-- What holds of a class without superclass, and of a class if it holds of its superclass, holds of
    every class in the table. -/
theorem Reached.induction {motive : Declaration → Descriptor → Prop}
    (root : ∀ {decl descriptor}, Chosen decls decl → decl.superclass = none →
      Descriptor.build none decl = .ok descriptor → motive decl descriptor)
    (sub : ∀ {decl above base descriptor}, Chosen decls decl → Chosen decls above →
      decl.superclass = some above.name → motive above base →
      Descriptor.build (some base) decl = .ok descriptor → motive decl descriptor)
    (h : Reached decls progress) (hg : progress.table.get? name = some descriptor) :
    ∃ decl, Chosen decls decl ∧ decl.name = name ∧ motive decl descriptor := by
  induction h generalizing name descriptor with
  | start =>
    rw [get?_empty] at hg
    cases hg
  | @step _ decl _ before chosen fresh founded ih =>
    rcases get?_of_insert hg with ⟨rfl, rfl⟩ | hg
    · refine ⟨decl, chosen, rfl, ?_⟩
      have hb := founded.built
      cases hs : decl.superclass with
      | none =>
        rw [hs] at hb
        exact root chosen hs hb
      | some base =>
        obtain ⟨found, hf⟩ := contains_iff_get?.1 (founded.above base hs)
        obtain ⟨above, ha, rfl, hm⟩ := ih hf
        rw [hs, Option.bind_some, hf] at hb
        exact sub chosen ha hs hm hb
    · exact ih hg

/-- All slot tables in a class table are regular. -/
theorem Reached.regular (h : Reached decls progress)
    (hg : progress.table.get? name = some descriptor) : descriptor.table.Regular := by
  obtain ⟨_, _, _, hr⟩ := h.induction (motive := fun _ descriptor => descriptor.table.Regular)
    (fun _ _ hb => Descriptor.regular_of_build (by rintro _ ⟨⟩) hb)
    (fun _ _ _ hr hb => Descriptor.regular_of_build (by rintro _ ⟨⟩; exact hr) hb) hg
  exact hr

/-- A class in the table has names for its methods and is as large as its superclass, and its
    methods are placed over those of the superclass. -/
theorem Reached.eq_derived (h : Reached decls progress)
    (hf : progress.table.Founded decl descriptor) :
    (∀ method ∈ decl.methods, method.text ≠ "") ∧
      (∀ above ∈ decl.superclass.bind progress.table.get?, above.size ≤ decl.size) ∧
        descriptor = Descriptor.derived (decl.superclass.bind progress.table.get?) decl := by
  refine (Descriptor.build_eq_ok_iff (Descriptor.regular_inherited ?_).toIndexed).1 hf.built
  intro above ha
  obtain ⟨_, _, hg⟩ := Option.bind_eq_some_iff.1 ha
  exact h.regular hg

/-- The table puts `sub` right below `base`. -/
def Super (table : ClassTable) (sub base : ClassName) : Prop :=
  ∃ descriptor, table.get? sub = some descriptor ∧ descriptor.superclass = some base

/-- The way up from a class ends: the superclass of a class was there before the class. -/
theorem Reached.acc (h : Reached decls progress) (hw : progress.table.Within table)
    (hc : progress.table.contains name = true) : Acc (Function.swap table.Super) name := by
  induction h generalizing name with
  | start => simp [contains] at hc
  | @step progress decl descriptor before chosen fresh founded ih =>
    have hw' : progress.table.Within table := (within_insert fresh).trans hw
    obtain ⟨found, hg⟩ := contains_iff_get?.1 hc
    have hf := hw hg
    rcases get?_of_insert hg with ⟨rfl, rfl⟩ | hg
    · -- The new class: its superclass was in the table before.
      refine Acc.intro _ fun base ⟨found, hf', hs⟩ => ih hw' (founded.above base ?_)
      obtain rfl : descriptor = found := Option.some.inj (hf.symm.trans hf')
      rw [← hs, (Descriptor.fields_of_build founded.built).2.1]
    · exact ih hw' (contains_iff_get?.2 ⟨found, hg⟩)

/-- No class is above itself. -/
theorem Reached.acyclic (h : Reached decls progress) (name : ClassName) :
    ¬Relation.TransGen progress.table.Super name name := by
  intro hcycle
  have hc : progress.table.contains name = true := by
    obtain ⟨_, ⟨descriptor, hg, _⟩, _⟩ := Relation.TransGen.head'_iff.1 hcycle
    exact contains_iff_get?.2 ⟨descriptor, hg⟩
  have hacc := (h.acc (.refl _) hc).transGen
  clear hc
  induction hacc with
  | intro name _ ih => exact ih name (Relation.transGen_swap.2 hcycle) hcycle

/-! ## The whole building -/

/-- What has come of the building of a class: a state further on, with the class in it. -/
structure Raised (decls : List Declaration) (progress : Progress) (name : ClassName)
    (next : Progress) : Prop where
  /-- The building can come to that state. -/
  reached : Reached decls next
  /-- The classes that were there are still there. -/
  within : progress.table.Within next.table
  /-- The class is there. -/
  there : next.table.contains name = true

/-- What stops the building of the class `start`: going up from it, one is lost, or there is a class
    that cannot be built although the class right above it is there. -/
inductive Stops (decls : List Declaration) (start : Declaration) : ClassFault → Prop
  | lost {fault : ClassFault} (lost : Lost decls start fault) : Stops decls start fault
  | fails {progress : Progress} {decl : Declaration} {fault : ClassFault}
      (reached : Reached decls progress) (mem : decl ∈ decls)
      (up : Relation.ReflTransGen (Up decls) start decl)
      (above : ∀ base, decl.superclass = some base → progress.table.contains base = true)
      (failed : Descriptor.build (decl.superclass.bind progress.table.get?) decl = .error fault) :
      Stops decls start fault

/-- A descriptor that cannot be built on those in the table is not built for a fault that the
    declarations have. -/
theorem Reached.justified {fault : ClassFault} (h : Reached decls progress) (hd : decl ∈ decls)
    (hb : Descriptor.build (decl.superclass.bind progress.table.get?) decl = .error fault) :
    fault.Justified decls := by
  cases hs : decl.superclass.bind progress.table.get? with
  | none =>
    rw [hs, Descriptor.build_none] at hb
    split_ifs at hb with hm
    obtain rfl := Except.error.inj hb
    exact ⟨rfl, decl, hd, hm⟩
  | some base =>
    -- The superclass was built from a declaration of its name and size.
    obtain ⟨name, hn, hg⟩ := Option.bind_eq_some_iff.1 hs
    obtain ⟨above, ha, rfl, hf⟩ := h.origin hg
    obtain ⟨he, _, hsize⟩ := Descriptor.fields_of_build hf.built
    rw [hs, Descriptor.build_some (h.regular hg).toIndexed] at hb
    split_ifs at hb with hm hlt
    · obtain rfl := Except.error.inj hb
      exact ⟨rfl, decl, hd, hm⟩
    · obtain rfl := Except.error.inj hb
      exact ⟨hlt, decl, hd, above, ha.mem, hn, rfl, rfl, he.symm, hsize.symm⟩

theorem Stops.justified {fault : ClassFault} (h : Stops decls decl fault) (hd : decl ∈ decls) :
    fault.Justified decls := by
  cases h with
  | lost lost => exact lost.justified hd
  | fails reached mem _ _ failed => exact reached.justified mem failed

/-- A class over those in the table is built, unless that stops the building of a class below. -/
theorem outcome_raise {start : Declaration} (h : Reached decls progress)
    (hup : Relation.ReflTransGen (Up decls) start decl)
    (hc : progress.table.contains decl.name = true ∨ Chosen decls decl)
    (ha : ∀ base, decl.superclass = some base → progress.table.contains base = true) :
    Outcome (Stops decls start ·.fault) (Raised decls progress decl.name)
      (raise progress decl) := by
  rw [raise]
  split_ifs with ht
  · exact ⟨h, .refl _, ht⟩
  · have hd := hc.resolve_left ht
    cases hb : Descriptor.build (decl.superclass.bind progress.table.get?) decl with
    | error fault => exact .fails h hd.mem hup ha hb
    | ok descriptor =>
      have hn : progress.table.get? decl.name = none := by simpa [contains] using ht
      exact ⟨.step h hd hn ⟨ha, hb⟩, within_insert hn, by simp [contains, get?_insert]⟩

theorem foldlM_raise_singleton (progress : Progress) (decl : Declaration) :
    [decl].foldlM raise progress = raise progress decl := by
  rw [List.foldlM_cons]
  exact bind_pure _

/-- An ascent is raised from its upper end down, so every class finds its superclass built. -/
theorem outcome_ascent {start : Declaration} {chain : List Declaration}
    (h : Reached decls progress) (hup : Relation.ReflTransGen (Up decls) start decl)
    (ha : Ascent decls progress.table.contains decl chain)
    (hc : progress.table.contains decl.name = true ∨ Chosen decls decl) :
    Outcome (Stops decls start ·.fault) (Raised decls progress decl.name)
      ((decl :: chain).reverse.foldlM raise progress) := by
  induction ha with
  | root top =>
    rw [List.reverse_singleton, foldlM_raise_singleton]
    exact outcome_raise h hup hc fun base hs => by cases top.symm.trans hs
  | met sub there =>
    rw [List.reverse_singleton, foldlM_raise_singleton]
    exact outcome_raise h hup hc fun base hs => by cases sub.symm.trans hs; exact there
  | up sub missing found rest ih =>
    rw [List.reverse_cons, List.foldlM_append]
    have hup' := hup.tail (Declaration.up_of_find? sub found)
    refine (ih hup' (.inr (Declaration.chosen_of_find? found))).bind fun middle hm => ?_
    rw [foldlM_raise_singleton]
    refine (outcome_raise hm.reached hup (hc.imp_left hm.within.contains) fun base hs => ?_).mono
      fun next hn => ⟨hn.reached, hm.within.trans hn.within, hn.there⟩
    cases sub.symm.trans hs
    rw [← (Declaration.mem_of_find? found).2]
    exact hm.there

theorem outcome_raiseChain (h : Reached decls progress)
    (hc : progress.table.contains decl.name = true ∨ Chosen decls decl) :
    Outcome (Stops decls decl ·.fault) (Raised decls progress decl.name)
      (raiseChain decls progress decl) := by
  have hclimb : Outcome (Lost decls decl) (Ascent decls progress.table.contains decl)
      (decl.climb decls progress.table.contains [decl.name]) :=
    Declaration.outcome_climb .here rfl (List.nodup_singleton _)
  rw [raiseChain, Declaration.chain]
  cases hcl : decl.climb decls progress.table.contains [decl.name] with
  | error fault =>
    rw [hcl] at hclimb
    exact .lost hclimb
  | ok chain =>
    rw [hcl] at hclimb
    exact outcome_ascent h .refl hclimb hc

/-- The table has all declared classes, and the building of these classes can come to it. -/
structure Realizes (decls : List Declaration) (progress : Progress) : Prop where
  /-- The building can come to it. -/
  reached : Reached decls progress
  /-- The declared classes are there. -/
  complete : ∀ decl ∈ decls, progress.table.contains decl.name = true

/-- The building stops at one of the declarations, when the classes of those before are built. -/
structure StopsAt (decls before : List Declaration) (decl : Declaration) (fault : ClassFault) :
    Prop where
  /-- The declaration comes right after those before. -/
  split : ∃ after, before ++ decl :: after = decls
  /-- The classes of those before are built. -/
  built : ∃ progress, Reached decls progress ∧
    ∀ other ∈ before, progress.table.contains other.name = true
  /-- The building stops. -/
  stops : Stops decls decl fault

/-- The declarations are gone through from the first to the last. Those behind are built, so a class
    that is not built when its turn comes is declared there for the first time. -/
theorem outcome_foldlM_raiseChain {before after : List Declaration} (he : before ++ after = decls)
    (h : Reached decls progress)
    (hb : ∀ decl ∈ before, progress.table.contains decl.name = true) :
    Outcome (fun halt => ∃ before decl, StopsAt decls before decl halt.fault) (Realizes decls)
      (after.foldlM (raiseChain decls) progress) := by
  induction after generalizing before progress with
  | nil =>
    rw [List.append_nil] at he
    exact ⟨h, he ▸ hb⟩
  | cons decl after ih =>
    rw [List.foldlM_cons]
    have hc : progress.table.contains decl.name = true ∨ Chosen decls decl := by
      by_cases hn : ∃ other ∈ before, other.name = decl.name
      · obtain ⟨other, ho, hn⟩ := hn
        exact .inl (hn ▸ hb other ho)
      · exact .inr (he ▸ Declaration.chosen_of_fresh fun other ho hn' => hn ⟨other, ho, hn'⟩)
    have hstep : Outcome (fun halt => ∃ before decl, StopsAt decls before decl halt.fault)
        (Raised decls progress decl.name) (raiseChain decls progress decl) :=
      (outcome_raiseChain h hc).imp fun halt hs =>
        ⟨before, decl, ⟨after, he⟩, ⟨progress, h, hb⟩, hs⟩
    refine hstep.bind fun next hn => ?_
    have he' : before ++ [decl] ++ after = decls := by
      rw [List.append_assoc]
      exact he
    refine ih he' hn.reached fun other ho => ?_
    rcases List.mem_append.1 ho with ho | ho
    · exact hn.within.contains (hb other ho)
    · rw [List.mem_singleton.1 ho]
      exact hn.there

/-- The building of a list of declarations realizes them, or it stops at one of them. -/
theorem outcome_buildAll (decls : List Declaration) :
    Outcome (fun halt => ∃ before decl, StopsAt decls before decl halt.fault) (Realizes decls)
      (buildAll decls) :=
  outcome_foldlM_raiseChain (List.nil_append decls) .start nofun

/-- The records of a table that is built are those of its building. -/
theorem realizes_buildTrace (h : build decls = .ok table) :
    Realizes decls ⟨table, buildTrace decls⟩ := by
  have ho := outcome_buildAll decls
  rw [build] at h
  rw [buildTrace]
  cases hp : buildAll decls with
  | error halt =>
    rw [hp] at h
    cases h
  | ok progress =>
    rw [hp] at h ho
    cases h
    exact ho

theorem realizes_of_build (h : build decls = .ok table) :
    ∃ trace, Realizes decls ⟨table, trace⟩ :=
  ⟨buildTrace decls, realizes_buildTrace h⟩

theorem stopsAt_of_build {fault : ClassFault} (h : build decls = .error fault) :
    ∃ before decl, StopsAt decls before decl fault := by
  have ho := outcome_buildAll decls
  rw [build] at h
  split at h
  · rename_i halt hp
    cases h
    rw [hp] at ho
    exact ho
  · cases h

theorem justified_of_build {fault : ClassFault} (h : build decls = .error fault) :
    fault.Justified decls := by
  obtain ⟨before, decl, ⟨after, rfl⟩, _, hs⟩ := stopsAt_of_build h
  exact hs.justified (by simp)

/-- If classes are always declared in the same way, the class of a declaration is founded by it. -/
theorem Realizes.founded (h : Realizes decls progress) (hc : Declaration.Consistent decls)
    (hd : decl ∈ decls) : ∃ descriptor, progress.table.get? decl.name = some descriptor ∧
      progress.table.Founded decl descriptor := by
  obtain ⟨descriptor, hg⟩ := contains_iff_get?.1 (h.complete decl hd)
  obtain ⟨other, ho, he, hf⟩ := h.reached.origin hg
  rw [hc other ho.mem decl hd he] at hf
  exact ⟨descriptor, hg, hf⟩

/-! ## The finished table -/

theorem Realizes.contains_iff (h : Realizes decls progress) :
    progress.table.contains name = true ↔ ∃ decl ∈ decls, decl.name = name := by
  constructor
  · intro hc
    obtain ⟨descriptor, hg⟩ := contains_iff_get?.1 hc
    obtain ⟨decl, hd, he, _⟩ := h.reached.origin hg
    exact ⟨decl, hd.mem, he⟩
  · rintro ⟨decl, hd, rfl⟩
    exact h.complete decl hd

/-- A class that is founded on others is a root only if it is declared as one. -/
theorem Founded.bind_eq_none_iff (h : table.Founded decl descriptor) :
    decl.superclass.bind table.get? = none ↔ decl.superclass = none := by
  cases hs : decl.superclass with
  | none => simp
  | some base =>
    obtain ⟨above, hg⟩ := contains_iff_get?.1 (h.above base hs)
    simp [hg]

/-- A table that is built holds the declared classes and no others, each as its first or its last
    declaration makes it of the superclass that the same table holds. So every superclass is there,
    no class that has one was built without it, and no class is above itself, however the
    declarations of a class differ. -/
theorem build_fixpoint (h : build decls = .ok table) :
    (∀ name, table.contains name = true ↔ ∃ decl ∈ decls, decl.name = name) ∧
      (∀ name descriptor, table.get? name = some descriptor →
        descriptor.name = name ∧ ∃ decl, decl.name = name ∧ Chosen decls decl ∧
          (decl.superclass.bind table.get? = none ↔ decl.superclass = none) ∧
          Descriptor.build (decl.superclass.bind table.get?) decl = .ok descriptor) ∧
      (∀ name descriptor base, table.get? name = some descriptor →
        descriptor.superclass = some base → ∃ above decl, table.get? base = some above ∧
          decl ∈ decls ∧ Descriptor.build (some above) decl = .ok descriptor) ∧
      ∀ name, ¬Relation.TransGen table.Super name name := by
  obtain ⟨trace, hr⟩ := realizes_of_build h
  refine ⟨fun name => hr.contains_iff, fun name descriptor hg => ?_,
    fun name descriptor base hg hs => ?_, hr.reached.acyclic⟩
  · obtain ⟨decl, hc, rfl, hf⟩ := hr.reached.origin hg
    exact ⟨(Descriptor.fields_of_build hf.built).1, decl, rfl, hc, hf.bind_eq_none_iff, hf.built⟩
  · obtain ⟨decl, hc, rfl, hf⟩ := hr.reached.origin hg
    rw [(Descriptor.fields_of_build hf.built).2.1] at hs
    obtain ⟨above, ha⟩ := contains_iff_get?.1 (hf.above base hs)
    refine ⟨above, decl, ha, hc.mem, ?_⟩
    rw [← hf.built, hs, Option.bind_some, ha]

/-- `Vehicle` and `Lorry` are each declared twice. `Vehicle` is built from its first declaration,
    and `Lorry`, which `Truck` needs before the turn of `Lorry` comes, from its last. -/
def twiceDeclared : List Declaration :=
  [⟨⟨"Vehicle"⟩, none, 16, [⟨"start"⟩]⟩, ⟨⟨"Truck"⟩, some ⟨"Lorry"⟩, 24, [⟨"start"⟩]⟩,
    ⟨⟨"Lorry"⟩, none, 32, [⟨"load"⟩]⟩, ⟨⟨"Lorry"⟩, some ⟨"Vehicle"⟩, 24, [⟨"load"⟩, ⟨"tip"⟩]⟩,
    ⟨⟨"Vehicle"⟩, some ⟨"Truck"⟩, 8, []⟩]

theorem build_fixpoint_twiceDeclared :
    ∃ table descriptor, build twiceDeclared = .ok table ∧
      table.get? ⟨"Lorry"⟩ = some descriptor ∧
      (∃ decl, decl.name = ⟨"Lorry"⟩ ∧ Chosen twiceDeclared decl ∧
        (decl.superclass.bind table.get? = none ↔ decl.superclass = none) ∧
        Descriptor.build (decl.superclass.bind table.get?) decl = .ok descriptor) ∧
      ∀ name, ¬Relation.TransGen table.Super name name := by
  obtain ⟨table, h⟩ : ∃ table, build twiceDeclared = .ok table :=
    exists_of_isOk (by decide +kernel)
  obtain ⟨hkeys, hentries, _, hacyclic⟩ := build_fixpoint h
  have hlorry : table.contains ⟨"Lorry"⟩ = true := (hkeys _).2 (by decide)
  obtain ⟨descriptor, hg⟩ := contains_iff_get?.1 hlorry
  exact ⟨table, descriptor, h, hg, (hentries _ _ hg).2, hacyclic⟩

end SlotDispatch.ClassTable
