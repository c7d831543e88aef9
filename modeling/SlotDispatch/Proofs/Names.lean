import Mathlib.Data.List.TakeWhile
import SlotDispatch.Name

/-!
# Names and their written forms

A qualified name holds its written form, and could disagree with it. It *agrees* with it
(`QualifiedName.Agrees`) if the text is the class, a `#` and the method. All names that are made
agree with their texts (`agrees_join`, `of_eq_ok_iff`).

The written form does not say where the class ends, so a reader takes the first `#` for the one
between the two and refuses a text that has another one. Names of which no part is empty or contains
a `#` are *readable* (`QualifiedName.Readable`):

* `ofText_append`: what a reader makes of a text with a `#`, by the parts before and after it;
* `ofText_full`: a name that agrees with its written form is read back from it if it is readable,
  and refused otherwise;
* `readable_of_ofText`, `agrees_of_ofText`: what was read is readable and agrees with its text.
-/

namespace SlotDispatch

/-- What comes after the check of a class name succeeds only if the check does. -/
theorem ClassName.bind_checked_eq_ok_iff {α : Type} {text : String} {a : α}
    {next : ClassName → Except NameFault α} :
    (checked text >>= next) = .ok a ↔ Valid ⟨text⟩ ∧ next ⟨text⟩ = .ok a := by
  cases hc : checked text with
  | error fault =>
    refine ⟨fun h => (nomatch h), fun ⟨hv, _⟩ => ?_⟩
    cases hc.symm.trans (checked_eq_ok_iff.2 ⟨rfl, hv⟩)
  | ok name =>
    obtain ⟨rfl, hv⟩ := checked_eq_ok_iff.1 hc
    exact ⟨fun h => ⟨hv, h⟩, fun h => h.2⟩

namespace QualifiedName

variable {name : QualifiedName} {owner : ClassName} {method : MethodName} {text : String}

/-- The written form of the name is the class, a `#` and the method. -/
def Agrees (name : QualifiedName) : Prop :=
  name.full = name.owner.text ++ "#" ++ name.method.text

instance (name : QualifiedName) : Decidable name.Agrees := inferInstanceAs (Decidable (_ = _))

@[simp]
theorem owner_join (owner : ClassName) (method : MethodName) : (join owner method).owner = owner :=
  rfl

@[simp]
theorem method_join (owner : ClassName) (method : MethodName) :
    (join owner method).method = method :=
  rfl

theorem agrees_join (owner : ClassName) (method : MethodName) : (join owner method).Agrees := rfl

/-- A name that agrees with its text is the one that its parts make. -/
theorem Agrees.eq_join (h : name.Agrees) : name = join name.owner name.method := by
  obtain ⟨owner, method, full⟩ := name
  have hf : full = owner.text ++ "#" ++ method.text := h
  rw [hf]
  rfl

theorem of_eq (owner : ClassName) (method : MethodName) :
    of owner method =
      if method.text = "" then .error .emptyMethod else .ok (join owner method) := by
  simp only [of, String.toList_eq_nil_iff]

theorem of_eq_ok_iff :
    of owner method = .ok name ↔ method.text ≠ "" ∧ name = join owner method := by
  rw [of_eq]
  split_ifs with h <;> simp [h, eq_comm]

theorem agrees_of_of (h : of owner method = .ok name) : name.Agrees := by
  obtain ⟨_, rfl⟩ := of_eq_ok_iff.1 h
  exact agrees_join owner method

theorem checked_eq_ok_iff {owner method : String} :
    checked owner method = .ok name ↔
      ClassName.Valid ⟨owner⟩ ∧ method ≠ "" ∧ name = join ⟨owner⟩ ⟨method⟩ :=
  ClassName.bind_checked_eq_ok_iff.trans (and_congr_right fun _ => of_eq_ok_iff)

/-- The names that can be told from their written forms: both parts are there and free of `#`. -/
structure Readable (name : QualifiedName) : Prop where
  /-- The class name is one that can be checked. -/
  owner : name.owner.Valid
  /-- The method has a name. -/
  method_ne_nil : name.method.text.toList ≠ []
  /-- There is no separator in it. -/
  not_mem_method : '#' ∉ name.method.text.toList

theorem readable_iff : name.Readable ↔ name.owner.Valid ∧ name.method.text.toList ≠ [] ∧
    '#' ∉ name.method.text.toList :=
  ⟨fun h => ⟨h.owner, h.method_ne_nil, h.not_mem_method⟩, fun h => ⟨h.1, h.2.1, h.2.2⟩⟩

instance (name : QualifiedName) : Decidable name.Readable := decidable_of_iff _ readable_iff.symm

/-- A text without a `#` is passed over on the way to the first one. -/
theorem ne_separator_of_not_mem {cs : List Char} (h : '#' ∉ cs) :
    ∀ c ∈ cs, (decide (c ≠ '#')) = true := by
  intro c hc
  rw [decide_eq_true_eq]
  rintro rfl
  exact h hc

theorem Agrees.toList_full (h : name.Agrees) :
    name.full.toList = name.owner.text.toList ++ '#' :: name.method.text.toList := by
  rw [h]
  simp

/-- The first `#` divides a text. Both parts must be there, and the second free of `#`. -/
theorem ofText_append {owner method : List Char} (ho : '#' ∉ owner)
    (ht : text.toList = owner ++ '#' :: method) :
    ofText text =
      if owner = [] ∨ method = [] ∨ '#' ∈ method then .error .malformed
      else .ok (join ⟨String.ofList owner⟩ ⟨String.ofList method⟩) := by
  have hpos := ne_separator_of_not_mem ho
  rw [ofText, ht, List.takeWhile_append_of_pos hpos, List.dropWhile_append_of_pos hpos]
  simp only [ne_eq, not_true, decide_false, Bool.false_eq_true, not_false_eq_true,
    List.takeWhile_cons_of_neg, List.dropWhile_cons_of_neg, List.append_nil]
  split_ifs with hp
  · rfl
  · -- What is left is accepted by the checks of the names.
    obtain ⟨hne, hm, _⟩ := not_or.1 hp |>.imp_right not_or.1
    have hc : ClassName.checked (String.ofList owner) = .ok ⟨String.ofList owner⟩ :=
      ClassName.checked_eq_ok_iff.2 ⟨rfl, by simp [ClassName.Valid, hne, ho]⟩
    simp [checked, hc, of, hm, bind, Except.bind]

theorem ofText_of_not_mem (h : '#' ∉ text.toList) : ofText text = .error .malformed := by
  have hd : text.toList.dropWhile (· ≠ '#') = [] :=
    List.dropWhile_eq_nil_iff.2 (ne_separator_of_not_mem h)
  rw [ofText, hd]

/-- A name is read back from its written form if it is readable, and otherwise it is refused. -/
theorem ofText_full (h : name.Agrees) :
    ofText name.full = if name.Readable then .ok name else .error .malformed := by
  by_cases ho : '#' ∈ name.owner.text.toList
  · -- The first `#` is one of the class, so there is another one behind it.
    obtain ⟨before, after, he, hb⟩ := List.eq_append_cons_of_mem ho
    have ht : name.full.toList = before ++ '#' :: (after ++ '#' :: name.method.text.toList) := by
      rw [h.toList_full, he, List.append_assoc, List.cons_append]
    rw [ofText_append hb ht, if_pos (by simp), if_neg fun h => h.owner.2 ho]
  · have hr : name.Readable ↔ ¬(name.owner.text.toList = [] ∨ name.method.text.toList = [] ∨
        '#' ∈ name.method.text.toList) := by
      simp only [readable_iff, ClassName.Valid, ho, not_or, not_false_eq_true, and_true, ne_eq]
    rw [ofText_append ho h.toList_full, String.ofList_toList, String.ofList_toList, ← h.eq_join]
    simp only [hr, ite_not]

/-- Whatever was read is made of two parts, the first of them without a `#`. -/
theorem eq_join_of_ofText (h : ofText text = .ok name) :
    ∃ owner method : List Char, text.toList = owner ++ '#' :: method ∧
      name = join ⟨String.ofList owner⟩ ⟨String.ofList method⟩ ∧ name.Readable := by
  by_cases hm : '#' ∈ text.toList
  · obtain ⟨owner, method, ht, ho⟩ := List.eq_append_cons_of_mem hm
    rw [ofText_append ho ht] at h
    split_ifs at h with hp
    obtain rfl := Except.ok.inj h
    obtain ⟨hne, hm, hs⟩ := not_or.1 hp |>.imp_right not_or.1
    exact ⟨owner, method, ht, rfl, by simp [ClassName.Valid, hne, ho], by simpa using hm,
      by simpa using hs⟩
  · rw [ofText_of_not_mem hm] at h
    cases h

theorem readable_of_ofText (h : ofText text = .ok name) : name.Readable := by
  obtain ⟨_, _, _, _, hr⟩ := eq_join_of_ofText h
  exact hr

theorem agrees_of_ofText (h : ofText text = .ok name) : name.Agrees := by
  obtain ⟨_, _, _, rfl, _⟩ := eq_join_of_ofText h
  exact agrees_join _ _

end QualifiedName

end SlotDispatch
