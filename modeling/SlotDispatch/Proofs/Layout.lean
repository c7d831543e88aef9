import SlotDispatch.Descriptor
import SlotDispatch.Proofs.Slots

/-!
# Layouts

A descriptor is a *prefix* of another (`Descriptor.IsPrefix`) if an instance of the latter begins
like one of the former: it is at least as large, and its slots have the same methods as far as those
of the former go. That is what `Descriptor.checkPrefix` checks (`checkPrefix_eq_ok_iff`), and it is
a preorder, so a class that begins like its superclass begins like all classes above it. The check
looks at the sizes first (`checkPrefix_eq_error_iff`).

A slot table that a class extends is a prefix of the extension. Building a descriptor on one with an
index that agrees with its slots therefore fails for two reasons only (`build_some`): a method
without a name, and an instance that is smaller than one of the superclass.
-/

namespace SlotDispatch

/-- One table is a prefix of another if its list of method names is, whatever classes define
    them. -/
theorem SlotTable.isPrefixOf_iff {table other : SlotTable} :
    table.isPrefixOf other = true ↔ table.methods <+: other.methods := by
  rw [isPrefixOf, Bool.and_eq_true, decide_eq_true_eq, size, size, methods, methods]
  generalize table.slots = slots, other.slots = slots'
  induction slots generalizing slots' with
  | nil => simp
  | cons slot slots ih =>
    cases slots' with
    | nil => simp
    | cons slot' slots' =>
      rw [List.map_cons, List.map_cons, List.cons_prefix_cons, ← ih]
      simp only [List.length_cons, Nat.add_le_add_iff_right, List.zip_cons_cons, List.all_cons,
        Bool.and_eq_true, decide_eq_true_eq]
      exact and_left_comm

/-- The two kinds of faults are told apart by their words. -/
theorem LayoutFault.message_smaller_ne (sub base sub' base' : ClassName) (size size' : UInt64) :
    (smaller sub size base size').message ≠ (otherSlots sub' base').message := by
  intro h
  delta message at h
  have hl := congrArg (fun text => text.toList.head?) h
  simp only [String.toList_append, List.append_assoc] at hl
  have hc : "`".toList.head? = "v".toList.head? := hl
  exact absurd hc (by decide)

namespace Descriptor

variable {base sub descriptor : Descriptor} {decl : Declaration}

/-- An instance of `sub` begins like one of `base`. -/
structure IsPrefix (base sub : Descriptor) : Prop where
  /-- It is at least as large. -/
  size_le : base.size ≤ sub.size
  /-- It has the methods of `base` in the same slots. -/
  methods : base.table.methods <+: sub.table.methods

theorem IsPrefix.refl (descriptor : Descriptor) : descriptor.IsPrefix descriptor :=
  ⟨UInt64.le_refl _, List.prefix_rfl⟩

theorem IsPrefix.trans {first second third : Descriptor} (h : first.IsPrefix second)
    (h' : second.IsPrefix third) : first.IsPrefix third where
  size_le := UInt64.le_trans h.size_le h'.size_le
  methods := h.methods.trans h'.methods

theorem checkPrefix_eq_ok_iff : base.checkPrefix sub = .ok () ↔ base.IsPrefix sub := by
  rw [checkPrefix]
  split_ifs with hs hp
  · exact ⟨fun h => (nomatch h), fun h => absurd h.size_le (UInt64.not_le.2 hs)⟩
  · refine ⟨fun h => (nomatch h), fun h => ?_⟩
    rw [SlotTable.isPrefixOf_iff.2 h.methods] at hp
    cases hp
  · rw [Bool.not_eq_true', Bool.not_eq_false] at hp
    exact ⟨fun _ => ⟨UInt64.not_lt.1 hs, SlotTable.isPrefixOf_iff.1 hp⟩, fun _ => rfl⟩

/-- Two descriptors are prefixes of each other if they have the same size and the same methods, in
    the same slots. Their names, and the classes that define the methods, may differ. -/
theorem isPrefix_and_isPrefix_iff :
    base.IsPrefix sub ∧ sub.IsPrefix base ↔
      base.size = sub.size ∧ base.table.methods = sub.table.methods := by
  constructor
  · rintro ⟨h, h'⟩
    have hl := Nat.le_antisymm h.methods.length_le h'.methods.length_le
    exact ⟨UInt64.le_antisymm h.size_le h'.size_le, h.methods.eq_of_length hl⟩
  · rintro ⟨hs, hm⟩
    exact ⟨⟨UInt64.le_of_eq hs, hm ▸ List.prefix_rfl⟩,
      ⟨UInt64.le_of_eq hs.symm, hm ▸ List.prefix_rfl⟩⟩

/-- The check complains about the size if it can, and about the slots only otherwise. -/
theorem checkPrefix_eq_error_iff {fault : LayoutFault} :
    base.checkPrefix sub = .error fault ↔
      ¬base.IsPrefix sub ∧ fault = if sub.size < base.size then
        .smaller sub.name sub.size base.name base.size else .otherSlots sub.name base.name := by
  by_cases hp : base.IsPrefix sub
  · rw [checkPrefix_eq_ok_iff.2 hp]
    exact ⟨fun h => (nomatch h), fun h => absurd hp h.1⟩
  · have hn : base.checkPrefix sub ≠ .ok () := mt checkPrefix_eq_ok_iff.1 hp
    rw [and_iff_right hp]
    rw [checkPrefix] at hn ⊢
    split_ifs at hn ⊢
    · rw [Except.error.injEq, eq_comm]
    · rw [Except.error.injEq, eq_comm]
    · exact absurd rfl hn

/-- In regular tables a method of a prefix is found in the same slot. -/
theorem IsPrefix.slot? (h : base.IsPrefix sub) (hb : base.table.Regular) (hs : sub.table.Regular)
    {method : MethodName} {i : Nat} (hi : base.table.slot? method = some i) :
    sub.table.slot? method = some i := by
  rw [hb.slot?_eq_some_iff] at hi
  obtain ⟨rest, hr⟩ := h.methods
  rw [hs.slot?_eq_some_iff, ← hr, List.getElem?_append_left (List.getElem?_eq_some_iff.1 hi).1, hi]

/-- Whether a table begins with another one depends on the names of the methods only. The check of
    layouts is reflexive and transitive, and goes both ways only between descriptors of the same
    size with the same methods. If it fails, its words are those about the size exactly if the size
    is too small, and those about the slots otherwise. -/
theorem checkPrefix_preorder :
    (∀ table other : SlotTable,
      table.isPrefixOf other = true ↔ table.methods <+: other.methods) ∧
    (∀ descriptor : Descriptor, descriptor.checkPrefix descriptor = .ok ()) ∧
    (∀ first second third : Descriptor, first.checkPrefix second = .ok () →
      second.checkPrefix third = .ok () → first.checkPrefix third = .ok ()) ∧
    (∀ first second : Descriptor,
      first.checkPrefix second = .ok () ∧ second.checkPrefix first = .ok () ↔
        first.size = second.size ∧ first.table.methods = second.table.methods) ∧
    ∀ (base sub : Descriptor) (fault : LayoutFault), base.checkPrefix sub = .error fault →
      let bySize : LayoutFault := .smaller sub.name sub.size base.name base.size
      let bySlots : LayoutFault := .otherSlots sub.name base.name
      (fault.message = bySize.message ↔ sub.size < base.size) ∧
      (fault.message = bySlots.message ↔ base.size ≤ sub.size) ∧
      (fault = bySize ∨ fault = bySlots) := by
  refine ⟨fun _ _ => SlotTable.isPrefixOf_iff,
    fun descriptor => checkPrefix_eq_ok_iff.2 (.refl descriptor), ?_, ?_, ?_⟩
  · intro first second third h h'
    rw [checkPrefix_eq_ok_iff] at h h' ⊢
    exact h.trans h'
  · intro first second
    rw [checkPrefix_eq_ok_iff, checkPrefix_eq_ok_iff, isPrefix_and_isPrefix_iff]
  · intro base sub fault h bySize bySlots
    have hne : bySize.message ≠ bySlots.message := LayoutFault.message_smaller_ne _ _ _ _ _ _
    rw [(checkPrefix_eq_error_iff.1 h).2, ← UInt64.not_lt]
    by_cases hs : sub.size < base.size
    · simp only [if_pos hs]
      exact ⟨iff_of_true rfl hs, iff_of_false hne (not_not_intro hs), .inl rfl⟩
    · simp only [if_neg hs]
      exact ⟨iff_of_false hne.symm hs, iff_of_true rfl hs, .inr rfl⟩

/-- A class in which each slot has the method `start`, as these classes define it. -/
def repeating (name : String) (size : UInt64) (owners : List String) : Descriptor :=
  ⟨⟨name⟩, none, size, .ofList (owners.map fun owner => .join ⟨owner⟩ ⟨"start"⟩)⟩

/-- Of three classes with more and more slots for one method, the second may stand for the first and
    the third for the second, so the third may stand for the first. The first is too small to stand
    for the third. -/
theorem checkPrefix_preorder_repeating :
    let plain := repeating "Vehicle" 16 ["Vehicle"]
    let double := repeating "Truck" 16 ["Truck", "Vehicle"]
    let triple := repeating "Van" 24 ["Van", "Van", "Truck"]
    plain.checkPrefix double = .ok () ∧ double.checkPrefix triple = .ok () ∧
      plain.checkPrefix triple = .ok () ∧ ∃ fault, triple.checkPrefix plain = .error fault ∧
        fault.message = "`Vehicle' (16 bytes) is smaller than its superclass `Van' (24 bytes)" := by
  intro plain double triple
  obtain ⟨-, -, htrans, -, hfault⟩ := checkPrefix_preorder
  have he : triple.checkPrefix plain =
      .error (.smaller ⟨"Vehicle"⟩ 16 ⟨"Van"⟩ 24) := rfl
  refine ⟨rfl, rfl, htrans plain double triple rfl rfl, _, he, ?_⟩
  exact ((hfault triple plain _ he).1.2 (by decide)).trans (by decide)

/-! ## Building descriptors -/

@[simp]
theorem inherited_none : inherited none = .empty := rfl

@[simp]
theorem inherited_some (base : Descriptor) : inherited (some base) = base.table := rfl

/-- The descriptor of a declared class below `base`, with all its methods placed. -/
def derived (base : Option Descriptor) (decl : Declaration) : Descriptor where
  name := decl.name
  superclass := decl.superclass
  size := decl.size
  table := (inherited base).overlay decl.name decl.methods

theorem regular_inherited {base : Option Descriptor}
    (h : ∀ descriptor ∈ base, descriptor.table.Regular) : (inherited base).Regular := by
  cases base with
  | none => exact SlotTable.regular_empty
  | some base => exact h base rfl

theorem isPrefix_derived (h : base.table.Indexed) (hs : base.size ≤ decl.size) :
    base.IsPrefix (derived (some base) decl) :=
  ⟨hs, SlotTable.isPrefix_methods_overlay h decl.name decl.methods⟩

theorem build_none (decl : Declaration) :
    build none decl =
      if ∃ method ∈ decl.methods, method.text = "" then .error (.slots (.naming .emptyMethod))
      else .ok (derived none decl) := by
  rw [build, inherited_none, SlotTable.extend_eq_overlay SlotTable.regular_empty.toIndexed]
  by_cases hm : ∃ method ∈ decl.methods, method.text = ""
  · simp only [if_pos hm]
  · simp only [if_neg hm]
    rfl

/-- Below a superclass the names of the methods are looked at first, then the size. The slots of the
    superclass are never missing. -/
theorem build_some (h : base.table.Indexed) (decl : Declaration) :
    build (some base) decl =
      if ∃ method ∈ decl.methods, method.text = "" then .error (.slots (.naming .emptyMethod))
      else if decl.size < base.size then
        .error (.layout (.smaller decl.name decl.size base.name base.size))
      else .ok (derived (some base) decl) := by
  rw [build, inherited_some, SlotTable.extend_eq_overlay h]
  by_cases hm : ∃ method ∈ decl.methods, method.text = ""
  · simp only [if_pos hm]
  · by_cases hs : decl.size < base.size
    · simp only [if_neg hm, if_pos hs, checkPrefix]
    · -- The second half of the check cannot fail: the methods were placed over the superclass.
      have hp := checkPrefix_eq_ok_iff.2 (isPrefix_derived h (UInt64.not_lt.1 hs))
      simp only [if_neg hm, if_neg hs]
      rw [derived, inherited_some] at hp ⊢
      rw [hp]

/-- A descriptor can be built if all methods have names and the instances are large enough. -/
theorem build_eq_ok_iff {base : Option Descriptor} (h : (inherited base).Indexed) :
    build base decl = .ok descriptor ↔
      (∀ method ∈ decl.methods, method.text ≠ "") ∧ (∀ above ∈ base, above.size ≤ decl.size) ∧
        descriptor = derived base decl := by
  have hm : (∀ method ∈ decl.methods, method.text ≠ "") ↔
      ¬∃ method ∈ decl.methods, method.text = "" := by
    simp only [not_exists, not_and, ne_eq]
  rw [hm]
  cases base with
  | none =>
    rw [build_none]
    split_ifs with hn
    · exact ⟨fun h => (nomatch h), fun h => absurd hn h.1⟩
    · exact ⟨fun h => ⟨hn, nofun, (Except.ok.inj h).symm⟩, fun h => h.2.2 ▸ rfl⟩
  | some base =>
    rw [build_some h]
    split_ifs with hn hs
    · exact ⟨fun h => (nomatch h), fun h => absurd hn h.1⟩
    · exact ⟨fun h => (nomatch h), fun h => absurd (h.2.1 base rfl) (UInt64.not_le.2 hs)⟩
    · refine ⟨fun h => ⟨hn, ?_, (Except.ok.inj h).symm⟩, fun h => h.2.2 ▸ rfl⟩
      rintro _ ⟨⟩
      exact UInt64.not_lt.1 hs

/-- What is built has the name, the superclass and the size that are declared, and a slot table that
    extends the inherited one. -/
theorem exists_extend_of_build {base : Option Descriptor} (h : build base decl = .ok descriptor) :
    ∃ table, (inherited base).extend decl.name decl.methods = .ok table ∧
      descriptor = ⟨decl.name, decl.superclass, decl.size, table⟩ := by
  rw [build] at h
  cases he : (inherited base).extend decl.name decl.methods with
  | error fault =>
    rw [he] at h
    cases h
  | ok table =>
    refine ⟨table, rfl, ?_⟩
    rw [he] at h
    dsimp only at h
    split at h
    · exact (Except.ok.inj h).symm
    · split at h
      · cases h
      · exact (Except.ok.inj h).symm

theorem fields_of_build {base : Option Descriptor} (h : build base decl = .ok descriptor) :
    descriptor.name = decl.name ∧ descriptor.superclass = decl.superclass ∧
      descriptor.size = decl.size := by
  obtain ⟨table, _, rfl⟩ := exists_extend_of_build h
  exact ⟨rfl, rfl, rfl⟩

theorem extend_of_build {base : Option Descriptor} (h : build base decl = .ok descriptor) :
    (inherited base).extend decl.name decl.methods = .ok descriptor.table := by
  obtain ⟨table, he, rfl⟩ := exists_extend_of_build h
  exact he

/-- A descriptor that is built on a regular table has a regular table. -/
theorem regular_of_build {base : Option Descriptor}
    (h : ∀ above ∈ base, above.table.Regular) (hb : build base decl = .ok descriptor) :
    descriptor.table.Regular := by
  have hi := regular_inherited h
  obtain ⟨_, _, rfl⟩ := (build_eq_ok_iff hi.toIndexed).1 hb
  exact hi.overlay decl.name decl.methods

end Descriptor

end SlotDispatch
