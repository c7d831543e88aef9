import SlotDispatch.Proofs.Accounting

/-!
# Counts that overflow

A limit keeps the count of a heap from overflowing. Without one, a request may be granted whose
bytes cannot be counted any more: its storage is there, but the request fails, and not because
storage is missing. A request is *answered* (`Machine.Answers`) if this does not happen to it.

* `Machine.allocate_of_overflow`: what becomes of a request that is granted and cannot be counted.
  With `allocate_of_grants` and `allocate_of_not_grants`, these are all the cases;
* `Machine.answersAll_iff_countable`: the requests of a run are all answered if and only if the
  bytes of those that are granted can be counted.
-/

namespace SlotDispatch

theorem Heap.allocate_of_overflow {heap : Heap} {layout : Layout} {granted : Bool}
    (hw : heap.within layout.size = true) (hs : layout.size = 0 ∨ granted = true)
    (ho : UInt64.size ≤ heap.allocated.toNat + layout.size.toNat) :
    heap.allocate layout granted = .error .counterOverflow := by
  rw [allocate_of_storage hw hs, if_neg (Nat.not_lt.2 ho)]

namespace Machine

variable {machine next : Machine} {layout : Layout} {layouts : List Layout}

/-! ## One request -/

/-- The storage is there, but its bytes cannot be counted. The heap is as before. -/
theorem allocate_of_overflow (hg : machine.Grants layout)
    (ho : UInt64.size ≤ machine.heap.allocated.toNat + layout.size.toNat) :
    allocate layout machine = .error (.heap .counterOverflow) (machine.asked layout) := by
  obtain ⟨hw, hs⟩ := grants_iff.1 hg
  simp only [allocate, Heap.allocate_of_overflow hw hs ho]
  rfl

/-- A request is answered: it is met and the count grows by its bytes, or there is not enough
    storage and the heap is as before. -/
def Answers (machine : Machine) (layout : Layout) : Prop :=
  (∃ next, allocate layout machine = .ok () next ∧
    next.heap.limit = machine.heap.limit ∧
    next.heap.allocated.toNat = machine.heap.allocated.toNat + layout.size.toNat) ∨
  ∃ next, allocate layout machine = .error (.heap (.outOfMemory layout.label layout.size)) next ∧
    next.heap = machine.heap

/-- The requests that are granted and cannot be counted are the only ones that are not answered. -/
theorem answers_iff : machine.Answers layout ↔
    (machine.Grants layout →
      machine.heap.allocated.toNat + layout.size.toNat < UInt64.size) := by
  constructor
  · intro h hg
    by_contra hc
    have ho := allocate_of_overflow hg (Nat.not_lt.1 hc)
    rcases h with ⟨next, hn, -⟩ | ⟨next, hn, -⟩
    · cases ho.symm.trans hn
    · cases ho.symm.trans hn
  · intro h
    by_cases hg : machine.Grants layout
    · exact .inl ⟨_, allocate_of_grants hg (h hg), rfl, handedOut_allocated (h hg)⟩
    · exact .inr ⟨_, allocate_of_not_grants hg, rfl⟩

instance : Decidable (machine.Answers layout) := decidable_of_iff' _ answers_iff

/-- A request is met if it is granted and can be counted. -/
theorem meets_iff : machine.Meets layout ↔ machine.Grants layout ∧
    machine.heap.allocated.toNat + layout.size.toNat < UInt64.size := by
  constructor
  · rintro ⟨next, hn⟩
    by_cases hg : machine.Grants layout
    · refine ⟨hg, Nat.lt_of_not_le fun ho => ?_⟩
      cases hn.symm.trans (allocate_of_overflow hg ho)
    · cases hn.symm.trans (allocate_of_not_grants hg)
  · rintro ⟨hg, hs⟩
    exact ⟨_, allocate_of_grants hg hs⟩

theorem Meets.allocate_eq (h : machine.Meets layout) :
    allocate layout machine = .ok () (machine.handedOut layout) := by
  obtain ⟨hg, hs⟩ := meets_iff.1 h
  exact allocate_of_grants hg hs

theorem Meets.requested_eq (h : machine.Meets layout) :
    machine.requested layout = machine.handedOut layout := by
  rw [requested, h.allocate_eq]

/-! ## Runs of requests -/

/-- The requests of a run are all answered, each when its turn comes. -/
def AnswersAll (machine : Machine) (layouts : List Layout) : Prop :=
  ∀ before layout rest, layouts = before ++ layout :: rest →
    (machine.after before).Answers layout

theorem AnswersAll.head (h : machine.AnswersAll (layout :: layouts)) : machine.Answers layout :=
  h [] layout layouts rfl

theorem AnswersAll.tail (h : machine.AnswersAll (layout :: layouts)) :
    (machine.requested layout).AnswersAll layouts := by
  intro before layout' rest hl
  exact h (layout :: before) layout' rest (by rw [hl, List.cons_append])

theorem Countable.answersAll (hc : machine.Countable layouts) : machine.AnswersAll layouts := by
  rintro before layout rest rfl
  exact answers_iff.2 hc.after.lt_size

/-- Conversely, the first request that cannot be counted is not answered. -/
theorem AnswersAll.countable (h : machine.AnswersAll layouts) : machine.Countable layouts := by
  induction layouts generalizing machine with
  | nil => exact fun _ => machine.heap.allocated.toNat_lt_size
  | cons layout layouts ih =>
    have hr := ih h.tail
    intro hl
    rw [granted, those]
    by_cases hg : machine.Grants layout
    · have hs := answers_iff.1 h.head hg
      have hn := (meets_iff.2 ⟨hg, hs⟩).requested_eq
      rw [hn] at hr
      have hb := hr hl
      rw [granted, handedOut_allocated hs, Nat.add_assoc] at hb
      rwa [if_pos hg, hn, Layout.bytes_cons]
    · rw [requested_of_not_grants hg] at hr
      rw [if_neg hg, requested_of_not_grants hg]
      exact hr hl

theorem answersAll_iff_countable : machine.AnswersAll layouts ↔ machine.Countable layouts :=
  ⟨AnswersAll.countable, Countable.answersAll⟩

/-- On a heap without limit, the requests of a run are all answered if and only if the count with
    the bytes of all granted ones still is a word. The one that is not answered fails because its
    bytes cannot be counted. -/
theorem answersAll_iff_lt_size (machine : Machine) (layouts : List Layout)
    (hl : machine.heap.limit = none) :
    (machine.AnswersAll layouts ↔
      machine.heap.allocated.toNat + Layout.bytes (machine.granted layouts) < UInt64.size) ∧
    ∀ before layout rest, layouts = before ++ layout :: rest →
      ¬(machine.after before).Answers layout →
        allocate layout (machine.after before) =
          .error (.heap .counterOverflow) ((machine.after before).asked layout) := by
  constructor
  · rw [answersAll_iff_countable]
    exact ⟨fun hc => hc hl, fun hc _ => hc⟩
  · intro before layout rest _ hn
    rw [answers_iff, Classical.not_imp, Nat.not_lt] at hn
    exact allocate_of_overflow hn.1 hn.2

/-- Two requests of the largest size that an object can have leave room in the count for one more
    byte. -/
theorem answersAll_iff_lt_size_ample :
    let depot : Layout := ⟨"Depot", 0x7FFFFFFFFFFFFFFF⟩
    ample.AnswersAll [depot, depot, ⟨"Mark", 1⟩] ∧
      allocate ⟨"Gear", 4⟩ (ample.after [depot, depot]) =
        .error (.heap .counterOverflow) ((ample.after [depot, depot]).asked ⟨"Gear", 4⟩) := by
  intro depot
  constructor
  · exact (answersAll_iff_lt_size ample [depot, depot, ⟨"Mark", 1⟩] rfl).1.2 (by decide +kernel)
  · exact (answersAll_iff_lt_size ample [depot, depot, ⟨"Gear", 4⟩] rfl).2 [depot, depot] _ [] rfl
      (by decide +kernel)

/-- The request that comes when the count is one below the largest word is granted, as there
    is no limit, and is neither met nor refused for want of storage. -/
theorem not_answersAll_ample :
    let layouts : List Layout :=
      [⟨"Depot", 0x7FFFFFFFFFFFFFFF⟩, ⟨"Depot", 0x7FFFFFFFFFFFFFFF⟩, ⟨"Gear", 4⟩]
    ample.heap.limit = none ∧ (∀ layout ∈ layouts, layout.size ≤ 0x7FFFFFFFFFFFFFFF) ∧
      ¬ample.AnswersAll layouts := by
  refine ⟨rfl, by decide, ?_⟩
  rw [answersAll_iff_countable]
  intro hc
  exact absurd (hc rfl) (by decide +kernel)

end Machine

end SlotDispatch
