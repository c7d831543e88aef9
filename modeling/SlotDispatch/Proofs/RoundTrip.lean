import SlotDispatch.Interchange.Write
import SlotDispatch.Proofs.Building
import SlotDispatch.Proofs.Representation
import SlotDispatch.Proofs.Written

/-!
# Reading class tables back

A class table is written without the index of its slot tables, and of a qualified name only the
written form is left, which does not say where the parts meet, so a reader has to find out. It does,
and gives back the table that was written, unless there is a name that cannot be read (`restored`):

* `readSlotTable_toJson`, `readDescriptor_toJson`, `readClassTable_toJson`: a reader gives back a
  slot table, a descriptor and a class table, if what was left out is what the slots say;
* `exact_toJson`: what is written can be met in a text, in both layouts;
* `Obtained.coherent`: in all tables that are built or read, the indexes are those that the slots
  have, and the names agree with their written forms;
* `readable_of_read`: what was read can be read again.
-/

namespace SlotDispatch

namespace ClassTable

variable {table : ClassTable} {name : ClassName} {descriptor : Descriptor} {slot : QualifiedName}

/-! ## Tables and their entries -/

theorem mem_toList : (name, descriptor) ∈ table.toList ↔ table.get? name = some descriptor :=
  Std.ExtTreeMap.mem_toList_iff_getElem?_eq_some

/-- The last entry for a name counts. -/
theorem get?_ofList (entries : List (ClassName × Descriptor)) (name : ClassName) :
    (ofList entries).get? name = (entries.reverse.find? (·.1 = name)).map (·.2) := by
  rw [ofList, List.foldl_eq_foldr_reverse]
  -- By induction from the last entry to the first, as later entries hide earlier ones.
  induction entries.reverse with
  | nil => simp
  | cons entry entries ih =>
    rw [List.foldr_cons, get?_insert, ih, List.find?_cons]
    by_cases he : entry.1 = name <;> simp [he]

theorem mem_of_get?_ofList {entries : List (ClassName × Descriptor)}
    (h : (ofList entries).get? name = some descriptor) : (name, descriptor) ∈ entries := by
  rw [get?_ofList] at h
  obtain ⟨entry, hf, rfl⟩ := Option.map_eq_some_iff.1 h
  obtain rfl : entry.1 = name := by simpa using List.find?_some hf
  exact List.mem_reverse.1 (List.mem_of_find?_eq_some hf)

/-- A table is recovered from its entries. -/
theorem ofList_toList (table : ClassTable) : ofList table.toList = table := by
  refine ext_get? fun name => ?_
  cases h : (ofList table.toList).get? name with
  | some descriptor => exact (mem_toList.1 (mem_of_get?_ofList h)).symm
  | none =>
    -- What the table has under a name would have been among its entries.
    rw [get?_ofList, Option.map_eq_none_iff, List.find?_eq_none] at h
    cases hg : table.get? name with
    | none => rfl
    | some descriptor => simpa using h _ (List.mem_reverse.2 (mem_toList.2 hg))

/-- The names in all slots of all classes, in the order in which they are written. -/
def slots (table : ClassTable) : List QualifiedName :=
  table.toList.flatMap fun entry => entry.2.table.slots

theorem mem_slots : slot ∈ table.slots ↔
    ∃ name descriptor, table.get? name = some descriptor ∧ slot ∈ descriptor.table.slots := by
  rw [slots, List.mem_flatMap]
  constructor
  · rintro ⟨⟨name, descriptor⟩, he, hs⟩
    exact ⟨name, descriptor, mem_toList.1 he, hs⟩
  · rintro ⟨name, descriptor, hg, hs⟩
    exact ⟨(name, descriptor), mem_toList.2 hg, hs⟩

/-- In all slots of all classes are names that can be read. -/
def Readable (table : ClassTable) : Prop :=
  ∀ name descriptor, table.get? name = some descriptor →
    ∀ slot ∈ descriptor.table.slots, slot.Readable

theorem readable_iff : table.Readable ↔ ∀ slot ∈ table.slots, slot.Readable := by
  constructor
  · intro h slot hs
    obtain ⟨name, descriptor, hg, hs⟩ := mem_slots.1 hs
    exact h name descriptor hg slot hs
  · intro h name descriptor hg slot hs
    exact h slot (mem_slots.2 ⟨name, descriptor, hg, hs⟩)

instance (table : ClassTable) : Decidable table.Readable := decidable_of_iff _ readable_iff.symm

end ClassTable

namespace Interchange

open Json (Value)

variable {α β : Type}

/-! ## What is read back -/

/-- The refusal of a name whose written form does not tell its parts, as an invalid value. -/
def unreadable (name : QualifiedName) : ReadFault :=
  .data (.invalidValue (.text name.full) "something like `Vehicle#start'")

/-- What is read back of something that was written with these names: the same, unless one of the
    names cannot be read. The first such name is refused. -/
def restored (names : List QualifiedName) (a : α) : Read α :=
  match names.find? fun name => ¬name.Readable with
  | none => .ok a
  | some name => .error (unreadable name)

theorem restored_of_readable {names : List QualifiedName} (h : ∀ name ∈ names, name.Readable)
    (a : α) : restored names a = .ok a := by
  have hf : names.find? (fun name => ¬name.Readable) = none :=
    List.find?_eq_none.2 fun name hn => by simpa using h name hn
  rw [restored, hf]

theorem restored_of_not_readable {names : List QualifiedName}
    (h : ¬∀ name ∈ names, name.Readable) (a : α) :
    ∃ name ∈ names, ¬name.Readable ∧ restored names a = .error (unreadable name) := by
  cases hf : names.find? (fun name => ¬name.Readable) with
  | none =>
    refine absurd (fun name hn => ?_) h
    simpa using List.find?_eq_none.1 hf name hn
  | some name =>
    refine ⟨name, List.mem_of_find?_eq_some hf, by simpa using List.find?_some hf, ?_⟩
    rw [restored, hf]

/-- Something else is read after what was read back. -/
theorem restored_bind {names names' : List QualifiedName} {a : α} {b : β} {f : α → Read β}
    (h : f a = restored names' b) : (restored names a >>= f) = restored (names ++ names') b := by
  rw [restored, restored, List.find?_append]
  -- The other names only count if all of the first can be read.
  cases names.find? (fun name => ¬name.Readable) with
  | none => exact h
  | some name => rfl

theorem restored_bind_ok {names : List QualifiedName} {a : α} {b : β} {f : α → Read β}
    (h : f a = .ok b) : (restored names a >>= f) = restored names b := by
  have hr : f a = restored [] b := h
  rw [restored_bind hr, List.append_nil]

@[simp]
theorem map_restored (f : α → β) (names : List QualifiedName) (a : α) :
    f <$> restored names a = restored names (f a) := by
  rw [map_eq_pure_bind]
  exact restored_bind_ok rfl

theorem mapM_restored {read : β → Read α} {write : α → β} {names : α → List QualifiedName}
    {l : List α} (h : ∀ a ∈ l, read (write a) = restored (names a) a) :
    (l.map write).mapM read = restored (l.flatMap names) l := by
  induction l with
  | nil => rfl
  | cons a l ih =>
    rw [List.map_cons, List.mapM_cons, h a List.mem_cons_self,
      ih fun a ha => h a (List.mem_cons_of_mem _ ha)]
    exact restored_bind (restored_bind_ok rfl)

/-! ## Written values -/

theorem ok_bind (a : α) (f : α → Read β) : (Except.ok a >>= f) = f a := rfl

theorem readQualifiedName_toJson {name : QualifiedName} (ha : name.Agrees) :
    readQualifiedName name.toJson.tree = restored [name] name := by
  have hs : readString "a MethodFullname" name.toJson.tree = .ok name.full := rfl
  rw [readQualifiedName, hs, ok_bind, QualifiedName.ofText_full ha]
  by_cases h : name.Readable
  · rw [if_pos h, restored_of_readable (by simpa using h)]
    rfl
  · have hf : [name].find? (fun name => ¬name.Readable) = some name := by simp [h]
    rw [if_neg h, restored, hf]
    rfl

/-- The index is not written, but found again. -/
theorem readSlotTable_toJson {table : SlotTable} (h : table.Coherent) :
    readSlotTable table.toJson.tree = restored table.slots table := by
  have hm : (table.slots.map fun name => name.toJson.tree).mapM readQualifiedName =
      restored table.slots table.slots := by
    rw [mapM_restored fun name hn => readQualifiedName_toJson (h.agrees name hn),
      List.flatMap_singleton']
  simp only [SlotTable.toJson, Value.tree, Value.treeItems_eq_map, List.map_map,
    Function.comp_def, readSlotTable, hm]
  exact restored_bind_ok (congrArg Except.ok h.ofList_slots)

theorem readClassName_toJson (name : ClassName) : readClassName name.toJson.tree = .ok name := rfl

theorem readSuperclass_toJson (superclass : Option ClassName) :
    readSuperclass (superclass.elim Value.null ClassName.toJson).tree = .ok superclass := by
  cases superclass <;> rfl

theorem readSize_toJson (size : UInt64) :
    readSize (Value.number (.integer size.toNat)).tree = .ok size := by
  have h : 0 ≤ (size.toNat : Int) ∧ (size.toNat : Int).toNat < UInt64.size :=
    ⟨Int.natCast_nonneg _, size.toNat_lt_size⟩
  rw [Value.tree, readSize, if_pos h, Int.toNat_natCast, UInt64.ofNat_toNat]
  rfl

/-- A descriptor is written as an object, so the two origins make no difference. -/
theorem readDescriptor_toJson {descriptor : Descriptor} (h : descriptor.table.Coherent)
    (origin : Origin) :
    readDescriptor origin descriptor.toJson.tree =
      restored descriptor.table.slots descriptor := by
  obtain ⟨name, superclass, size, table⟩ := descriptor
  -- All fields are there, and none of them twice.
  have hf : (Value.treeFields [("name", name.toJson),
      ("superclass", superclass.elim .null ClassName.toJson),
      ("size", .number (.integer size.toNat)), ("vtable", table.toJson)]).foldlM readField {} =
        restored table.slots ⟨some name, some superclass, some size, some table⟩ := by
    simp [Value.treeFields, readField, Json.Text.of, wellFormed, onlyOnce, ok_bind,
      readClassName_toJson, readSuperclass_toJson, readSize_toJson, readSlotTable_toJson h]
  rw [Descriptor.toJson, Value.tree, readDescriptor, hf]
  exact restored_bind_ok rfl

theorem readEntry_toJson {name : ClassName} {descriptor : Descriptor}
    (h : descriptor.table.Coherent) (origin : Origin) :
    readEntry origin (.of name.text, descriptor.toJson.tree) =
      restored descriptor.table.slots (name, descriptor) := by
  rw [readEntry, readDescriptor_toJson h]
  exact restored_bind_ok rfl

theorem readClassTable_toJson {table : ClassTable}
    (h : ∀ name descriptor, table.get? name = some descriptor → descriptor.table.Coherent)
    (origin : Origin) :
    readClassTable origin table.toJson.tree = restored table.slots table := by
  have hm : (table.toList.map fun entry => (Json.Text.of entry.1.text, entry.2.toJson.tree)).mapM
      (readEntry origin) = restored table.slots table.toList :=
    mapM_restored fun entry he => readEntry_toJson (h _ _ (ClassTable.mem_toList.1 he)) origin
  simp only [ClassTable.toJson, Value.tree, Value.treeFields_eq_map, List.map_map,
    Function.comp_def, readClassTable, hm]
  exact restored_bind_ok (congrArg Except.ok table.ofList_toList)

/-- A text that is met as a value, with nothing after it, is read like the value. -/
theorem read_of_reading {text : String} {tree : Json.Tree}
    (h : Json.Reading.of text = ⟨tree, false⟩) (reader : Origin → Json.Tree → Read α) :
    (Source.text text).read reader = reader .text tree := by
  rw [Source.read, h]
  exact bind_pure _

/-! ## What was read -/

/-- The slot table is loaded as soon as it is there, in whatever order the fields come. -/
theorem outcome_readField {fields : Fields} (h : ∀ table ∈ fields.table, table.Loaded)
    (field : Json.Text × Json.Tree) :
    Outcome (fun _ => True) (fun fields => ∀ table ∈ fields.table, table.Loaded)
      (readField fields field) := by
  rw [readField]
  refine (Outcome.of_true _).bind fun key _ => ?_
  split_ifs
  · exact (Outcome.of_true _).bind fun _ _ => (Outcome.of_true _).bind fun _ _ => h
  · exact (Outcome.of_true _).bind fun _ _ => (Outcome.of_true _).bind fun _ _ => h
  · exact (Outcome.of_true _).bind fun _ _ => (Outcome.of_true _).bind fun _ _ => h
  · refine (Outcome.of_true _).bind fun _ _ => (outcome_readSlotTable _).bind fun table ht => ?_
    rintro _ ⟨⟩
    exact ht
  · exact (Outcome.of_true _).bind fun _ _ => h

theorem outcome_readDescriptor (origin : Origin) (tree : Json.Tree) :
    Outcome (fun _ => True) (fun descriptor => descriptor.table.Loaded)
      (readDescriptor origin tree) := by
  cases tree with
  | array items ending =>
    -- Nothing is asked of the name, the superclass and the size.
    rw [readDescriptor]
    iterate 7 refine (Outcome.of_true _).bind fun _ _ => ?_
    refine (outcome_readSlotTable _).bind fun table ht => ?_
    exact (Outcome.of_true _).bind fun _ _ => ht
  | object fields ending =>
    rw [readDescriptor]
    -- No slot table is there before the first field.
    refine (Outcome.foldlM nofun fun fields h field _ => outcome_readField h field).bind
      fun fields h => ?_
    cases ending with
    | some fault => trivial
    | none =>
      iterate 2 refine (Outcome.of_true _).bind fun _ _ => ?_
      cases ht : fields.table with
      | none => trivial
      | some table => exact h table ht
  | _ => exact outcome_refuse _ _

/-- Whatever stands in the text, all slot tables of a class table that was read are loaded. -/
theorem outcome_readClassTable (origin : Origin) (tree : Json.Tree) :
    Outcome (fun _ => True)
      (fun table => ∀ name descriptor, table.get? name = some descriptor → descriptor.table.Loaded)
      (readClassTable origin tree) := by
  cases tree with
  | object fields ending =>
    rw [readClassTable]
    have hm : Outcome (fun _ => True) (fun entries => ∀ entry ∈ entries, entry.2.table.Loaded)
        (fields.mapM (readEntry origin)) := by
      refine Outcome.mapM fun field _ => (Outcome.of_true _).bind fun key _ => ?_
      exact (outcome_readDescriptor origin field.2).bind fun descriptor hd => hd
    refine hm.bind fun entries he => ?_
    cases ending with
    | some fault => trivial
    | none => exact fun name descriptor hg => he _ (ClassTable.mem_of_get?_ofList hg)
  | _ => exact outcome_refuse _ _

end Interchange

theorem Descriptor.exact_toJson (descriptor : Descriptor) : descriptor.toJson.Exact := by
  have hsize : Json.Whole descriptor.size.toNat :=
    ⟨by omega, Int.ofNat_lt.2 descriptor.size.toNat_lt_size⟩
  have hslots : ∀ item ∈ descriptor.table.slots.map QualifiedName.toJson, item.Exact := by
    intro item hi
    obtain ⟨slot, _, rfl⟩ := List.mem_map.1 hi
    exact .text _
  refine .object fun field hf => ?_
  simp only [List.mem_cons, List.not_mem_nil, or_false] at hf
  rcases hf with rfl | rfl | rfl | rfl
  · exact .text _
  · cases descriptor.superclass
    · exact .null
    · exact .text _
  · exact .integer hsize
  · exact .array hslots

namespace ClassTable

open Interchange (Source readClassTable restored restored_of_readable restored_of_not_readable
  unreadable)

variable {table other : ClassTable} {name : ClassName} {descriptor : Descriptor}

/-- A size is the only number that is written. -/
theorem exact_toJson (table : ClassTable) : table.toJson.Exact := by
  refine .object fun field hf => ?_
  obtain ⟨⟨name, descriptor⟩, _, rfl⟩ := List.mem_map.1 hf
  exact descriptor.exact_toJson

/-- The class tables that a program can have: those that it builds, and those that it reads. -/
inductive Obtained : ClassTable → Prop
  | built {decls : List Declaration} {table : ClassTable} (done : build decls = .ok table) :
      Obtained table
  | read {source : Source} {table : ClassTable} (done : source.read readClassTable = .ok table) :
      Obtained table

theorem loaded_of_read {source : Source} (h : source.read readClassTable = .ok table)
    (hg : table.get? name = some descriptor) : descriptor.table.Loaded := by
  have ho := Interchange.outcome_read Interchange.outcome_readClassTable source
  rw [h] at ho
  exact ho name descriptor hg

theorem readable_of_read {source : Source} (h : source.read readClassTable = .ok table) :
    table.Readable :=
  fun _ _ hg => (loaded_of_read h hg).readable

/-- Each class makes the names of its own methods, and finds the others in its superclass. -/
theorem Reached.agrees {decls : List Declaration} {progress : Progress} (h : Reached decls progress)
    (hg : progress.table.get? name = some descriptor) : descriptor.table.Agrees := by
  obtain ⟨_, _, _, ha⟩ := h.induction (motive := fun _ descriptor => descriptor.table.Agrees)
    (fun _ _ hb => SlotTable.agrees_empty.extend (Descriptor.extend_of_build hb))
    (fun _ _ _ ha hb => ha.extend (Descriptor.extend_of_build hb)) hg
  exact ha

theorem Obtained.coherent (h : table.Obtained) (hg : table.get? name = some descriptor) :
    descriptor.table.Coherent := by
  cases h with
  | built done =>
    obtain ⟨trace, hr⟩ := realizes_of_build done
    exact ⟨(hr.reached.regular hg).toIndexed, hr.reached.agrees hg⟩
  | read done => exact (loaded_of_read done hg).coherent

/-! ## Both layouts -/

theorem read_compactText (h : table.Obtained) :
    (Source.text table.toJson.compactText).read readClassTable = restored table.slots table := by
  rw [Interchange.read_of_reading table.exact_toJson.reading_compact]
  exact Interchange.readClassTable_toJson (fun _ _ => h.coherent) .text

theorem read_prettyText (h : table.Obtained) :
    (Source.text table.toJson.prettyText).read readClassTable = restored table.slots table := by
  rw [Interchange.read_of_reading table.exact_toJson.reading_pretty]
  exact Interchange.readClassTable_toJson (fun _ _ => h.coherent) .text

theorem eq_of_restored (hr : table.Readable) (hr' : other.Readable)
    (h : restored table.slots table = restored other.slots other) : table = other := by
  rw [restored_of_readable (readable_iff.1 hr), restored_of_readable (readable_iff.1 hr')] at h
  exact Except.ok.inj h

/-- What is read back from the two layouts of a table is the same: the table, if all names in its
    slots can be read, and otherwise the refusal of one that cannot. The first is the case for all
    tables that were read, and so either layout tells them from each other. -/
theorem reads_back :
    (∀ table : ClassTable, table.Obtained →
      let compact := (Source.text table.toJson.compactText).read readClassTable
      let pretty := (Source.text table.toJson.prettyText).read readClassTable
      (table.Readable → compact = .ok table ∧ pretty = .ok table) ∧
        (¬table.Readable → ∃ slot ∈ table.slots, ¬slot.Readable ∧
          compact = .error (unreadable slot) ∧ pretty = .error (unreadable slot))) ∧
    (∀ (source : Source) (table : ClassTable),
      source.read readClassTable = .ok table → table.Readable) ∧
    ∀ (source source' : Source) (table other : ClassTable),
      source.read readClassTable = .ok table → source'.read readClassTable = .ok other →
        (table = other ↔ table.toJson.compactText = other.toJson.compactText) ∧
        (table = other ↔ table.toJson.prettyText = other.toJson.prettyText) := by
  refine ⟨fun table h => ?_, fun source table => readable_of_read,
    fun source source' table other h h' => ⟨?_, ?_⟩⟩
  · rw [read_compactText h, read_prettyText h, readable_iff]
    refine ⟨fun hr => ?_, fun hr => ?_⟩
    · have he := restored_of_readable hr table
      exact ⟨he, he⟩
    · obtain ⟨slot, hs, hn, he⟩ := restored_of_not_readable hr table
      exact ⟨slot, hs, hn, he, he⟩
  · refine ⟨fun he => he ▸ rfl, fun he => eq_of_restored (readable_of_read h)
      (readable_of_read h') ?_⟩
    rw [← read_compactText (.read h), ← read_compactText (.read h'), he]
  · refine ⟨fun he => he ▸ rfl, fun he => eq_of_restored (readable_of_read h)
      (readable_of_read h') ?_⟩
    rw [← read_prettyText (.read h), ← read_prettyText (.read h'), he]

/-- A name with a quote, a line break, a control character and a letter that is not ASCII. -/
def oddlyNamed : List Declaration :=
  [⟨⟨"Vehicle"⟩, none, 16, [⟨"start"⟩]⟩,
    ⟨⟨"Lorry \"é\"\n\x01"⟩, some ⟨"Vehicle"⟩, 24, [⟨"start"⟩, ⟨"load"⟩]⟩]

/-- There is a separator in the name of a method. -/
def separatorInMethod : List Declaration :=
  [⟨⟨"Vehicle"⟩, none, 16, [⟨"start"⟩, ⟨"start#now"⟩]⟩]

theorem reads_back_oddlyNamed :
    (∃ table other, build oddlyNamed = .ok table ∧ build (oddlyNamed.take 1) = .ok other ∧
      table.Readable ∧
      (Source.text table.toJson.compactText).read readClassTable = .ok table ∧
      (Source.text table.toJson.prettyText).read readClassTable = .ok table ∧
      (table = other ↔ table.toJson.compactText = other.toJson.compactText)) ∧
    ∃ table slot, build separatorInMethod = .ok table ∧ slot ∈ table.slots ∧ ¬slot.Readable ∧
      (Source.text table.toJson.compactText).read readClassTable = .error (unreadable slot) ∧
      (Source.text table.toJson.prettyText).read readClassTable = .error (unreadable slot) := by
  obtain ⟨table, hb, hr⟩ : ∃ table, build oddlyNamed = .ok table ∧ table.Readable :=
    exists_of_any (by decide +kernel)
  obtain ⟨other, ho, hro⟩ : ∃ table, build (oddlyNamed.take 1) = .ok table ∧ table.Readable :=
    exists_of_any (by decide +kernel)
  obtain ⟨refused, hb', hr'⟩ : ∃ table, build separatorInMethod = .ok table ∧ ¬table.Readable :=
    exists_of_any (by decide +kernel)
  obtain ⟨hc, hp⟩ := (reads_back.1 table (.built hb)).1 hr
  obtain ⟨_, hpo⟩ := (reads_back.1 other (.built ho)).1 hro
  obtain ⟨slot, hs, hn, hc', hp'⟩ := (reads_back.1 refused (.built hb')).2 hr'
  exact ⟨⟨table, other, hb, ho, reads_back.2.1 _ _ hc, hc, hp, (reads_back.2.2 _ _ _ _ hc hpo).1⟩,
    refused, slot, hb', hs, hn, hc', hp'⟩

end ClassTable

end SlotDispatch
