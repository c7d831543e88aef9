import SlotDispatch.Proofs.Blame
import SlotDispatch.Proofs.Dispatch
import SlotDispatch.Proofs.Realization

/-!
# One more class

A list of declarations from which a table can be built is given one more declaration, somewhere in
the middle, of a class that it does not declare yet. That changes which chains are climbed and in
which order classes are built, but no class that was there shows it:

* `Reached.insert`: whatever the building could come to without the new declaration, it can come to
  with it, so no other class is to blame if the longer list fails (`firstFaulty_insert`);
* `Realizes.insert`: the new class is built last, on the table of the others.

So the building of the longer list comes down to that of the one descriptor (`build_insert`).
-/

namespace SlotDispatch

namespace Declaration

variable {before after : List Declaration} {decl other : Declaration}

theorem mem_insert : other ∈ before ++ decl :: after ↔ other = decl ∨ other ∈ before ++ after := by
  rw [List.perm_middle.mem_iff, List.mem_cons]

theorem Consistent.insert (hc : Consistent (before ++ after))
    (hd : ∀ other ∈ before ++ after, other.name ≠ decl.name) :
    Consistent (before ++ decl :: after) := by
  intro first hf second hs he
  rcases mem_insert.1 hf with hf | hf
  · rcases mem_insert.1 hs with hs | hs
    · rw [hf, hs]
    · exact absurd (hf ▸ he.symm) (hd second hs)
  · rcases mem_insert.1 hs with hs | hs
    · exact absurd (hs ▸ he) (hd first hf)
    · exact hc first hf second hs he

theorem find?_insert_of_neg {p : Declaration → Bool} (hp : ¬p decl = true) :
    (before ++ decl :: after).find? p = (before ++ after).find? p := by
  rw [List.find?_append, List.find?_append, List.find?_cons_of_neg hp]

/-- The first and the last declaration of a class stay so when another class is declared. -/
theorem Chosen.insert (h : Chosen (before ++ after) other) (hn : other.name ≠ decl.name) :
    Chosen (before ++ decl :: after) other := by
  have hp : ¬decide (decl.name = other.name) = true := by simpa using hn.symm
  refine h.imp (fun h => ?_) (fun h => ?_)
  · rw [find?_insert_of_neg hp, h]
  · rw [find?, List.reverse_append] at h
    rw [find?, List.reverse_append, List.reverse_cons, List.append_assoc, List.singleton_append,
      find?_insert_of_neg hp, h]

end Declaration

namespace ClassTable

open Declaration (Blame Chosen Consistent Faulty)

variable {table : ClassTable} {decls before after : List Declaration} {decl : Declaration}
  {descriptor : Descriptor} {progress : Progress} {fault : ClassFault}

/-! ## Outcomes that are known beforehand -/

/-- What realizes the declarations is what is built. -/
theorem Realizes.build_eq (h : Realizes decls progress) (hc : Consistent decls) :
    build decls = .ok progress.table := by
  obtain ⟨table, hb⟩ := (exists_build_iff hc).2 (h.realizable hc)
  obtain ⟨trace, hr⟩ := realizes_of_build hb
  rw [hb]
  exact congrArg Except.ok (hr.table_eq h hc fun _ => Iff.rfl)

/-- The fault that is to blame for the first faulty chain is reported. -/
theorem build_eq_error_of_blame (hc : Consistent decls) (hf : FirstFaulty decls before decl)
    (hb : Blame decls decl fault) : build decls = .error fault := by
  cases h : build decls with
  | ok table => exact absurd hf.faulty (not_faulty_of_ok hc h hf.mem)
  | error fault' =>
    obtain ⟨before', decl', hf', hb'⟩ := blame_of_build hc h
    obtain rfl := hf.unique hf'
    rw [hb.unique hc hf.mem hb']

/-! ## The longer list -/

/-- The building of the longer list can leave the new class for later. -/
theorem Reached.insert (h : Reached (before ++ after) progress)
    (hd : ∀ other ∈ before ++ after, other.name ≠ decl.name) :
    Reached (before ++ decl :: after) progress := by
  induction h with
  | start => exact .start
  | step _ chosen fresh founded ih =>
    exact .step ih (chosen.insert (hd _ chosen.mem)) fresh founded

theorem Realizes.insert (h : Realizes (before ++ after) progress)
    (hd : ∀ other ∈ before ++ after, other.name ≠ decl.name)
    (hf : progress.table.Founded decl descriptor) :
    Realizes (before ++ decl :: after) {
      table := progress.table.insert decl.name descriptor
      trace := progress.trace ++ [⟨decl.name, descriptor.table.size⟩] } where
  reached := by
    have hchosen : Chosen (before ++ decl :: after) decl :=
      Declaration.chosen_of_fresh fun other ho => hd other (List.mem_append_left _ ho)
    exact .step (h.reached.insert hd) hchosen (h.reached.get?_eq_none hd) hf
  complete other ho := by
    rw [contains_insert]
    rcases Declaration.mem_insert.1 ho with rfl | ho
    · exact .inl rfl
    · exact .inr (h.complete other ho)

/-- If the chain of the new class is faulty, it is the first one, wherever the class stands. -/
theorem firstFaulty_insert (h : Realizes (before ++ after) progress)
    (hc : Consistent (before ++ decl :: after))
    (hd : ∀ other ∈ before ++ after, other.name ≠ decl.name)
    (hf : Faulty (before ++ decl :: after) decl) :
    FirstFaulty (before ++ decl :: after) before decl where
  split := ⟨after, rfl⟩
  before other ho := by
    have hm : other ∈ before ++ after := List.mem_append_left _ ho
    exact (h.reached.insert hd).not_faulty hc (Declaration.mem_insert.2 (.inr hm))
      (h.complete other hm)
  faulty := hf

theorem build_insert_of_blame (h : Realizes (before ++ after) progress)
    (hc : Consistent (before ++ decl :: after))
    (hd : ∀ other ∈ before ++ after, other.name ≠ decl.name)
    (hb : Blame (before ++ decl :: after) decl fault) :
    build (before ++ decl :: after) = .error fault := by
  have hm : decl ∈ before ++ decl :: after := Declaration.mem_insert.2 (.inl rfl)
  exact build_eq_error_of_blame hc (firstFaulty_insert h hc hd (hb.faulty hm)) hb

/-- If the superclass of the new class is declared, the outcome is that of building its
    descriptor. -/
theorem build_insert_of_declared (h : Realizes (before ++ after) progress)
    (hc : Consistent (before ++ decl :: after))
    (hd : ∀ other ∈ before ++ after, other.name ≠ decl.name)
    (hs : ∀ base, decl.superclass = some base → ∃ above ∈ before ++ after, above.name = base) :
    build (before ++ decl :: after) =
      (Descriptor.build (decl.superclass.bind progress.table.get?) decl).map
        (progress.table.insert decl.name) := by
  have habove : ∀ base, decl.superclass = some base → progress.table.contains base = true :=
    fun base hb => h.contains_iff.2 (hs base hb)
  cases hb : Descriptor.build (decl.superclass.bind progress.table.get?) decl with
  | ok descriptor => exact (h.insert hd ⟨habove, hb⟩).build_eq hc
  | error fault =>
    -- The class is stopped on its own account: the one above it is there.
    have hm : decl ∈ before ++ decl :: after := Declaration.mem_insert.2 (.inl rfl)
    have hstops : Stops (before ++ decl :: after) decl fault :=
      .fails (h.reached.insert hd) hm .refl habove hb
    exact build_insert_of_blame h hc hd (hstops.blame hc hm)

theorem method?_insert_of_ne {name : ClassName} (hn : name ≠ decl.name) (method : MethodName) :
    (table.insert decl.name descriptor).method? name method = table.method? name method := by
  rw [method?, get?_insert, if_neg hn.symm, method?]

/-- A list of different classes that can be built is given one more class, in any place. If the
    superclass of that class is declared, what comes of the building is what comes of building the
    descriptor of the class on the table of the others: that descriptor is added to the table, and
    nothing else in it changes, or else its fault is reported. If the superclass is not declared, or
    is the class itself, that is reported. -/
theorem build_insert (decl : Declaration) (hn : ((before ++ after).map (·.name)).Nodup)
    (h : build (before ++ after) = .ok table)
    (hd : ∀ other ∈ before ++ after, other.name ≠ decl.name) :
    ((∀ base, decl.superclass = some base → ∃ above ∈ before ++ after, above.name = base) →
      build (before ++ decl :: after) =
          (Descriptor.build (decl.superclass.bind table.get?) decl).map (table.insert decl.name) ∧
        ∀ table', build (before ++ decl :: after) = .ok table' → ∀ name, name ≠ decl.name →
          table'.get? name = table.get? name ∧
            ∀ method, table'.method? name method = table.method? name method) ∧
    (∀ base, decl.superclass = some base → (∀ other ∈ before ++ after, other.name ≠ base) →
      base ≠ decl.name → build (before ++ decl :: after) = .error (.unknownClass base)) ∧
    (decl.superclass = some decl.name →
      build (before ++ decl :: after) = .error (.inheritanceCycle decl.name)) := by
  have hc := (Declaration.consistent_of_nodup hn).insert hd
  obtain ⟨trace, hr⟩ := realizes_of_build h
  refine ⟨fun hs => ?_, fun base hs hbase hne => ?_, fun hs => ?_⟩
  · have he := build_insert_of_declared hr hc hd hs
    refine ⟨he, fun table' ht name hname => ?_⟩
    rw [he] at ht
    cases hb : Descriptor.build (decl.superclass.bind table.get?) decl with
    | error fault =>
      rw [hb] at ht
      cases ht
    | ok descriptor =>
      rw [hb] at ht
      obtain rfl := Except.ok.inj ht
      exact ⟨by rw [get?_insert, if_neg hname.symm], method?_insert_of_ne hname⟩
  · refine build_insert_of_blame hr hc hd (.lost (.unknown .here hs fun other ho => ?_))
    rcases Declaration.mem_insert.1 ho with rfl | ho
    · exact hne.symm
    · exact hbase other ho
  · exact build_insert_of_blame hr hc hd
      (.lost (.again .here (List.nodup_singleton _) hs List.mem_cons_self))

/-- `Pickup`, which is below `Truck`, is declared between `Truck` and `Vehicle`. With other
    superclasses it cannot be built. -/
theorem build_insert_pickup :
    ∃ table descriptor, build [Builtin.truck, Builtin.vehicle] = .ok table ∧
      Descriptor.build (table.get? ⟨"Truck"⟩) pickup = .ok descriptor ∧
      build [Builtin.truck, pickup, Builtin.vehicle] =
        .ok (table.insert ⟨"Pickup"⟩ descriptor) ∧
      build [Builtin.truck, { pickup with superclass := some ⟨"Boat"⟩ }, Builtin.vehicle] =
        .error (.unknownClass ⟨"Boat"⟩) ∧
      build [Builtin.truck, { pickup with superclass := some ⟨"Pickup"⟩ }, Builtin.vehicle] =
        .error (.inheritanceCycle ⟨"Pickup"⟩) := by
  have hn : (([Builtin.truck] ++ [Builtin.vehicle]).map (·.name)).Nodup := by decide
  have hd : ∀ other ∈ [Builtin.truck] ++ [Builtin.vehicle], other.name ≠ ⟨"Pickup"⟩ := by decide
  obtain ⟨table, h, ho⟩ : ∃ table, build ([Builtin.truck] ++ [Builtin.vehicle]) = .ok table ∧
      (Descriptor.build (table.get? ⟨"Truck"⟩) pickup).isOk = true :=
    exists_of_any (by decide +kernel)
  obtain ⟨descriptor, hb⟩ := exists_of_isOk ho
  have hs : ∀ base, pickup.superclass = some base →
      ∃ above ∈ [Builtin.truck] ++ [Builtin.vehicle], above.name = base := by
    rintro _ ⟨⟩
    exact ⟨Builtin.truck, List.mem_cons_self, rfl⟩
  have he := ((build_insert pickup hn h hd).1 hs).1
  refine ⟨table, descriptor, h, hb, ?_, ?_, ?_⟩
  · rw [show Descriptor.build (pickup.superclass.bind table.get?) pickup = .ok descriptor from hb]
      at he
    exact he
  · exact (build_insert { pickup with superclass := some ⟨"Boat"⟩ } hn h hd).2.1 ⟨"Boat"⟩ rfl
      (by decide) (by decide)
  · exact (build_insert { pickup with superclass := some ⟨"Pickup"⟩ } hn h hd).2.2 rfl

end ClassTable

end SlotDispatch
