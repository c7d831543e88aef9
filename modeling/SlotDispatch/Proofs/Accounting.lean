import Mathlib.Algebra.BigOperators.Group.List.Basic
import Mathlib.Algebra.GroupWithZero.Nat
import Mathlib.Data.List.Infix
import SlotDispatch.Session

/-!
# The accounts of the heap

Requests for storage come one after the other. The heap may have a limit, the allocator answers as
it likes, and a request that is not met does not keep the next one from being met. A request is
*granted* (`Machine.Grants`) if the limit leaves room for it and the allocator, in case it is asked,
has storage.

* `Layout.lastSegment_label`: the type that is reported is the last segment of its name;
* `Machine.allocate_of_grants`, `Machine.allocate_of_not_grants`: what one request does. One that is
  granted is met if its bytes can be counted, one that is not leaves the heap as it is;
* `Machine.Countable`: the bytes of a run can be counted. With a limit they always can;
* `Machine.accounted_after`: what a run leaves is what the requests leave that it granted;
* `Machine.met_eq_self_iff`: if the allocator always has storage, all requests are met exactly if
  the limit leaves room for all of them together;
* `Session.machine_afterTurns`: drops make no difference.
-/

namespace SlotDispatch

/-! ## The types of requests -/

/-- What comes before the first `::`, if there is one. -/
theorem beforeColons_spec (cs : List Char) :
    (beforeColons cs = cs ∧ ¬[':', ':'] <:+: cs) ∨
      ∃ rest, cs = beforeColons cs ++ ':' :: ':' :: rest ∧
        ¬[':', ':'] <:+: beforeColons cs ++ [':'] := by
  fun_induction beforeColons cs with
  | case1 => exact .inl ⟨rfl, by simp⟩
  | case2 rest => exact .inr ⟨rest, rfl, by decide⟩
  | case3 c cs hn ih =>
    -- The two colons do not begin here, so they begin further on or not at all.
    have hc : ∀ tail, [':', ':'] <+: c :: tail → tail.head? = cs.head? → False := by
      intro tail hp hh
      rw [List.cons_prefix_cons] at hp
      obtain ⟨rfl, rest, rfl⟩ := hp
      cases cs with
      | nil => cases hh
      | cons d cs =>
        obtain rfl : ':' = d := Option.some.inj hh
        exact hn cs rfl rfl
    rcases ih with ⟨he, hi⟩ | ⟨rest, he, hi⟩
    · rw [he, List.infix_cons_iff]
      exact .inl ⟨rfl, not_or.2 ⟨fun hp => hc cs hp rfl, hi⟩⟩
    · refine .inr ⟨rest, congrArg (c :: ·) he, ?_⟩
      rw [List.cons_append, List.infix_cons_iff]
      refine not_or.2 ⟨fun hp => hc _ hp ?_, hi⟩
      generalize beforeColons cs = before at he
      rw [he]
      cases before <;> rfl

/-- The last segment of a type name: all of it if there is no `::` in it, and otherwise what comes
    after the last one. -/
def Layout.LastSegment (typeName segment : String) : Prop :=
  (segment = typeName ∧ ¬[':', ':'] <:+: typeName.toList) ∨
    ∃ path, typeName = path ++ "::" ++ segment ∧ ¬[':', ':'] <:+: ':' :: segment.toList

theorem Layout.lastSegment_label (layout : Layout) :
    LastSegment layout.typeName layout.label := by
  -- The label is looked for from the end.
  have hl : layout.label.toList = (beforeColons layout.typeName.toList.reverse).reverse :=
    String.toList_ofList
  rcases beforeColons_spec layout.typeName.toList.reverse with ⟨he, hi⟩ | ⟨rest, he, hi⟩
  · rw [he, List.reverse_reverse, String.toList_inj] at hl
    exact .inl ⟨hl, mt List.reverse_infix.2 hi⟩
  · refine .inr ⟨String.ofList rest.reverse, ?_, ?_⟩
    · rw [← String.toList_inj, ← List.reverse_inj, he, ← List.reverse_reverse (beforeColons _),
        ← hl]
      simp
    · rw [hl]
      refine mt List.reverse_infix.2 ?_
      simpa using hi

/-- The bytes of some requests. -/
def Layout.bytes (layouts : List Layout) : Nat := (layouts.map (·.size.toNat)).sum

@[simp]
theorem Layout.bytes_nil : bytes [] = 0 := rfl

@[simp]
theorem Layout.bytes_cons (layout : Layout) (layouts : List Layout) :
    bytes (layout :: layouts) = layout.size.toNat + bytes layouts := List.sum_cons

@[simp]
theorem Layout.bytes_append (layouts layouts' : List Layout) :
    bytes (layouts ++ layouts') = bytes layouts + bytes layouts' := by
  rw [bytes, List.map_append, List.sum_append]
  rfl

theorem Layout.bytes_eq_of_perm {layouts layouts' : List Layout} (h : layouts.Perm layouts') :
    bytes layouts = bytes layouts' :=
  (h.map _).sum_eq

namespace Heap

theorem within_iff {heap : Heap} {size : UInt64} : heap.within size = true ↔
    ∀ limit, heap.limit = some limit → heap.allocated.toNat + size.toNat ≤ limit.toNat := by
  rw [within]
  cases heap.limit with
  | none => simp
  | some limit => simp

/-- No count within a limit overflows: limits are words, too. -/
theorem lt_size_of_within {heap : Heap} {size limit : UInt64} (h : heap.within size = true)
    (hl : heap.limit = some limit) : heap.allocated.toNat + size.toNat < UInt64.size :=
  Nat.lt_of_le_of_lt (within_iff.1 h limit hl) limit.toNat_lt_size

/-- Where there is room and storage, only the count can fail. -/
theorem allocate_of_storage {heap : Heap} {layout : Layout} {granted : Bool}
    (hw : heap.within layout.size = true) (hs : layout.size = 0 ∨ granted = true) :
    heap.allocate layout granted =
      if heap.allocated.toNat + layout.size.toNat < UInt64.size then
        .ok { heap with allocated := heap.allocated + layout.size }
      else .error .counterOverflow := by
  rw [allocate, asksAllocator, if_neg (by simp [hw]), if_neg]
  rcases hs with hs | hs
  · simp [hs]
  · simp [hs]

theorem allocate_of_granted {heap : Heap} {layout : Layout} {granted : Bool}
    (hw : heap.within layout.size = true) (hs : layout.size = 0 ∨ granted = true)
    (hc : heap.allocated.toNat + layout.size.toNat < UInt64.size) :
    heap.allocate layout granted = .ok { heap with allocated := heap.allocated + layout.size } := by
  rw [allocate_of_storage hw hs, if_pos hc]

theorem allocate_of_refused {heap : Heap} {layout : Layout} {granted : Bool}
    (h : ¬(heap.within layout.size = true ∧ (layout.size = 0 ∨ granted = true))) :
    heap.allocate layout granted = .error (.outOfMemory layout.label layout.size) := by
  rw [allocate, asksAllocator]
  by_cases hw : heap.within layout.size = true
  · -- There is room, so it is the allocator that refuses.
    have hs : ¬(layout.size = 0 ∨ granted = true) := fun hs => h ⟨hw, hs⟩
    rw [not_or, Bool.not_eq_true] at hs
    rw [if_neg (by simp [hw]), if_pos (by simp [hw, hs.1, hs.2])]
  · rw [if_pos (by simpa using hw)]

end Heap

namespace Machine

variable {machine next : Machine} {layout : Layout} {layouts : List Layout}

/-! ## One request -/

/-- A request is granted: there is room for it, and there is storage if it needs any. -/
structure Grants (machine : Machine) (layout : Layout) : Prop where
  /-- The limit, if there is one, leaves room for it. -/
  room : ∀ limit, machine.heap.limit = some limit →
    machine.heap.allocated.toNat + layout.size.toNat ≤ limit.toNat
  /-- The allocator is not asked, or has storage. -/
  storage : layout.size = 0 ∨ machine.answers.headD true = true

theorem grants_iff : machine.Grants layout ↔
    machine.heap.within layout.size = true ∧
      (layout.size = 0 ∨ machine.answers.headD true = true) := by
  rw [Heap.within_iff]
  exact ⟨fun h => ⟨h.room, h.storage⟩, fun h => ⟨h.1, h.2⟩⟩

instance : Decidable (machine.Grants layout) := decidable_of_iff' _ grants_iff

/-- The machine after the allocator has been asked, if it is. -/
def asked (machine : Machine) (layout : Layout) : Machine :=
  { machine with
    answers :=
      if machine.heap.asksAllocator layout.size then machine.answers.tail else machine.answers }

/-- The machine after storage has been handed out. -/
def handedOut (machine : Machine) (layout : Layout) : Machine :=
  { machine.asked layout with
    heap := { machine.heap with allocated := machine.heap.allocated + layout.size }
    notes := machine.notes ++ [.allocated layout.size layout.label] }

theorem allocate_of_grants (hg : machine.Grants layout)
    (hc : machine.heap.allocated.toNat + layout.size.toNat < UInt64.size) :
    allocate layout machine = .ok () (machine.handedOut layout) := by
  obtain ⟨hw, hs⟩ := grants_iff.1 hg
  simp only [allocate, Heap.allocate_of_granted hw hs hc]
  rfl

theorem allocate_of_not_grants (hg : ¬machine.Grants layout) :
    allocate layout machine =
      .error (.heap (.outOfMemory layout.label layout.size)) (machine.asked layout) := by
  simp only [allocate, Heap.allocate_of_refused (mt grants_iff.2 hg)]
  rfl

theorem handedOut_allocated
    (hs : machine.heap.allocated.toNat + layout.size.toNat < UInt64.size) :
    (machine.handedOut layout).heap.allocated.toNat =
      machine.heap.allocated.toNat + layout.size.toNat :=
  (UInt64.toNat_add _ _).trans (Nat.mod_eq_of_lt hs)

/-! ## Runs of requests -/

/-- A request is met. -/
def Meets (machine : Machine) (layout : Layout) : Prop :=
  ∃ next, allocate layout machine = .ok () next

instance : Decidable (machine.Meets layout) :=
  match h : allocate layout machine with
  | .ok () next => .isTrue ⟨next, h⟩
  | .error _ _ => .isFalse fun ⟨_, h'⟩ => by cases h.symm.trans h'

/-- The machine after a request, whether it was met or not. -/
def requested (machine : Machine) (layout : Layout) : Machine :=
  match allocate layout machine with
  | .ok () next => next
  | .error _ next => next

/-- The machine after some requests, one after the other. -/
def after (machine : Machine) (layouts : List Layout) : Machine := layouts.foldl requested machine

/-- Those requests of a run of which something holds when their turn comes. -/
def those (p : Machine → Layout → Prop) [∀ machine layout, Decidable (p machine layout)] :
    Machine → List Layout → List Layout
  | _, [] => []
  | machine, layout :: layouts =>
    if p machine layout then layout :: those p (machine.requested layout) layouts
    else those p (machine.requested layout) layouts

/-- The requests of a run that are met. -/
def met (machine : Machine) (layouts : List Layout) : List Layout := those Meets machine layouts

/-- The requests of a run that are granted. -/
def granted (machine : Machine) (layouts : List Layout) : List Layout :=
  those Grants machine layouts

theorem those_append (p : Machine → Layout → Prop) [∀ machine layout, Decidable (p machine layout)]
    (machine : Machine) (layouts layouts' : List Layout) :
    those p machine (layouts ++ layouts') =
      those p machine layouts ++ those p (machine.after layouts) layouts' := by
  induction layouts generalizing machine with
  | nil => rfl
  | cons layout layouts ih =>
    simp only [List.cons_append, those, ih, after, List.foldl_cons]
    split_ifs
    · rfl
    · rfl

theorem requested_of_not_grants (hg : ¬machine.Grants layout) :
    machine.requested layout = machine.asked layout := by
  rw [requested, allocate_of_not_grants hg]

/-- The bytes of a run can be counted: if there is no limit, the count with those of all granted
    requests still is a word. -/
def Countable (machine : Machine) (layouts : List Layout) : Prop :=
  machine.heap.limit = none →
    machine.heap.allocated.toNat + Layout.bytes (machine.granted layouts) < UInt64.size

theorem Countable.lt_size (hc : machine.Countable (layout :: layouts))
    (hg : machine.Grants layout) :
    machine.heap.allocated.toNat + layout.size.toNat < UInt64.size := by
  cases hl : machine.heap.limit with
  | none =>
    have h := hc hl
    rw [granted, those, if_pos hg, Layout.bytes_cons] at h
    omega
  | some limit => exact Heap.lt_size_of_within (grants_iff.1 hg).1 hl

theorem Countable.requested_eq (hc : machine.Countable (layout :: layouts))
    (hg : machine.Grants layout) : machine.requested layout = machine.handedOut layout := by
  rw [requested, allocate_of_grants hg (hc.lt_size hg)]

theorem Countable.handedOut_allocated (hc : machine.Countable (layout :: layouts))
    (hg : machine.Grants layout) :
    (machine.handedOut layout).heap.allocated.toNat =
      machine.heap.allocated.toNat + layout.size.toNat :=
  Machine.handedOut_allocated (hc.lt_size hg)

theorem Countable.meets_iff (hc : machine.Countable (layout :: layouts)) :
    machine.Meets layout ↔ machine.Grants layout := by
  constructor
  · rintro ⟨next, hn⟩
    by_contra hg
    cases hn.symm.trans (allocate_of_not_grants hg)
  · intro hg
    exact ⟨_, allocate_of_grants hg (hc.lt_size hg)⟩

/-- After a request, the rest of the run can be counted from there. -/
theorem Countable.rest (hc : machine.Countable (layout :: layouts)) :
    (machine.requested layout).Countable layouts := by
  intro hl
  by_cases hg : machine.Grants layout
  · rw [hc.requested_eq hg] at hl ⊢
    have h := hc hl
    rw [granted, those, if_pos hg, hc.requested_eq hg, Layout.bytes_cons, ← Nat.add_assoc] at h
    rwa [hc.handedOut_allocated hg]
  · rw [requested_of_not_grants hg] at hl ⊢
    have h := hc hl
    rwa [granted, those, if_neg hg, requested_of_not_grants hg] at h

theorem Countable.after {layouts' : List Layout} (hc : machine.Countable (layouts ++ layouts')) :
    (machine.after layouts).Countable layouts' := by
  induction layouts generalizing machine with
  | nil => exact hc
  | cons layout layouts ih => exact ih hc.rest

theorem Countable.of_append {layouts' : List Layout}
    (hc : machine.Countable (layouts ++ layouts')) : machine.Countable layouts := by
  intro hl
  have h := hc hl
  rw [granted, those_append, Layout.bytes_append] at h
  rw [granted]
  omega

/-! ## The accounts -/

/-- What a run leaves of some requests that it met: their bytes are counted, and noted. -/
structure Accounted (machine next : Machine) (met : List Layout) : Prop where
  /-- The limit is the same. -/
  limit : next.heap.limit = machine.heap.limit
  /-- The bytes are counted. -/
  count : next.heap.allocated.toNat = machine.heap.allocated.toNat + Layout.bytes met
  /-- There is one note for each of the requests, and no other. -/
  notes : next.notes = machine.notes ++ met.map fun layout => .allocated layout.size layout.label
  /-- A limit that was kept is kept. -/
  kept : ∀ most, machine.heap.limit = some most →
    machine.heap.allocated.toNat ≤ most.toNat → next.heap.allocated.toNat ≤ most.toNat

theorem Accounted.of_unchanged (hh : next.heap = machine.heap) (hn : next.notes = machine.notes) :
    Accounted machine next [] where
  limit := by rw [hh]
  count := by rw [hh, Layout.bytes_nil, Nat.add_zero]
  notes := by rw [hn, List.map_nil, List.append_nil]
  kept most _ hm := by rwa [hh]

theorem Accounted.trans {middle : Machine} {met met' : List Layout}
    (h : Accounted machine middle met) (h' : Accounted middle next met') :
    Accounted machine next (met ++ met') where
  limit := h'.limit.trans h.limit
  count := by rw [h'.count, h.count, Layout.bytes_append, Nat.add_assoc]
  notes := by rw [h'.notes, h.notes, List.map_append, List.append_assoc]
  kept most hl hm := h'.kept most (h.limit.trans hl) (h.kept most hl hm)

theorem Accounted.of_grants (hc : machine.Countable (layout :: layouts))
    (hg : machine.Grants layout) : Accounted machine (machine.requested layout) [layout] := by
  have ha := hc.handedOut_allocated hg
  rw [hc.requested_eq hg]
  refine ⟨rfl, ha, rfl, fun most hl _ => ?_⟩
  rw [ha]
  exact hg.room most hl

theorem Accounted.of_not_grants (hg : ¬machine.Grants layout) :
    Accounted machine (machine.requested layout) [] := by
  rw [requested_of_not_grants hg]
  exact .of_unchanged rfl rfl

/-- What a run leaves is what the requests leave that it granted. -/
theorem accounted_after (hc : machine.Countable layouts) :
    Accounted machine (machine.after layouts) (machine.granted layouts) := by
  induction layouts generalizing machine with
  | nil => exact .of_unchanged rfl rfl
  | cons layout layouts ih =>
    have hr := ih hc.rest
    rw [granted, those]
    by_cases hg : machine.Grants layout
    · rw [if_pos hg]
      exact (Accounted.of_grants hc hg).trans hr
    · rw [if_neg hg]
      exact (Accounted.of_not_grants hg).trans hr

theorem met_eq_granted (hc : machine.Countable layouts) :
    machine.met layouts = machine.granted layouts := by
  induction layouts generalizing machine with
  | nil => rfl
  | cons layout layouts ih =>
    have hr := ih hc.rest
    rw [met, granted] at hr ⊢
    simp only [those, hc.meets_iff, hr]

/-- What becomes of one request. -/
structure Settles (machine : Machine) (layout : Layout) : Prop where
  /-- It is met if and only if it is granted. -/
  meets_iff : machine.Meets layout ↔ machine.Grants layout
  /-- If it is met, its bytes are counted and noted. -/
  met : ∀ next, allocate layout machine = .ok () next → Accounted machine next [layout]
  /-- If it is not met, storage is what is missing, and the heap and the notes are as before. -/
  refused : ∀ fault next, allocate layout machine = .error fault next →
    fault = .heap (.outOfMemory layout.label layout.size) ∧
      next.heap = machine.heap ∧ next.notes = machine.notes
  /-- Either way the type is reported without the path to it. -/
  label : Layout.LastSegment layout.typeName layout.label

theorem Countable.settles (hc : machine.Countable (layout :: layouts)) :
    machine.Settles layout where
  meets_iff := hc.meets_iff
  met next hn := by
    have hg : machine.Grants layout := hc.meets_iff.1 ⟨next, hn⟩
    have h := Accounted.of_grants hc hg
    rwa [requested, hn] at h
  refused fault next hn := by
    have hg : ¬machine.Grants layout := by
      intro hg
      obtain ⟨next', hn'⟩ := hc.meets_iff.2 hg
      cases hn.symm.trans hn'
    cases hn.symm.trans (allocate_of_not_grants hg)
    exact ⟨rfl, rfl, rfl⟩
  label := layout.lastSegment_label

theorem countable_of_limit {most : UInt64} (hl : machine.heap.limit = some most) :
    machine.Countable layouts := by
  intro h
  cases hl.symm.trans h

/-- An allocator that has storage for everything leaves it to the limit what is granted. -/
theorem grants_of_le {most : UInt64} (hl : machine.heap.limit = some most)
    (ha : ∀ answer ∈ machine.answers, answer = true)
    (hm : machine.heap.allocated.toNat + layout.size.toNat ≤ most.toNat) :
    machine.Grants layout where
  room limit hlimit := by
    obtain rfl : most = limit := Option.some.inj (hl.symm.trans hlimit)
    exact hm
  storage := by
    refine .inr ?_
    cases hs : machine.answers with
    | nil => rfl
    | cons answer answers => exact ha answer (hs ▸ List.mem_cons_self)

theorem mem_answers_of_asked {answer : Bool} (h : answer ∈ (machine.asked layout).answers) :
    answer ∈ machine.answers := by
  rw [asked] at h
  dsimp only at h
  split_ifs at h
  · exact List.mem_of_mem_tail h
  · exact h

theorem granted_eq_self {most : UInt64} (hl : machine.heap.limit = some most)
    (ha : ∀ answer ∈ machine.answers, answer = true)
    (hm : machine.heap.allocated.toNat + Layout.bytes layouts ≤ most.toNat) :
    machine.granted layouts = layouts := by
  induction layouts generalizing machine with
  | nil => rfl
  | cons layout layouts ih =>
    rw [Layout.bytes_cons, ← Nat.add_assoc] at hm
    have hg : machine.Grants layout := grants_of_le hl ha (by omega)
    have hc : machine.Countable (layout :: layouts) := countable_of_limit hl
    have hr : (machine.handedOut layout).granted layouts = layouts := by
      refine ih hl (fun answer h => ha answer (mem_answers_of_asked h)) ?_
      rwa [hc.handedOut_allocated hg]
    rw [granted] at hr
    rw [granted, those, if_pos hg, hc.requested_eq hg, hr]

/-- With such an allocator, all requests of a run are met exactly if the limit leaves room for all
    of them together. -/
theorem met_eq_self_iff {most : UInt64} (hl : machine.heap.limit = some most)
    (hm : machine.heap.allocated.toNat ≤ most.toNat)
    (ha : ∀ answer ∈ machine.answers, answer = true) : machine.met layouts = layouts ↔
      machine.heap.allocated.toNat + Layout.bytes layouts ≤ most.toNat := by
  have hc : machine.Countable layouts := countable_of_limit hl
  rw [met_eq_granted hc]
  constructor
  · intro h
    have hd := accounted_after hc
    rw [h] at hd
    rw [← hd.count]
    exact hd.kept most hl hm
  · exact granted_eq_self hl ha

end Machine

/-! ## Sessions that request and drop -/

/-- The layout of the storage. -/
def Storage.layout : Storage → Layout
  | .object .vehicle => Vehicle.layout
  | .object .truck => Truck.layout
  | .plain layout => layout

/-- What happens to storage in a session: it is requested, or what is in it is dropped. -/
inductive Turn where
  /-- Storage is requested; an object gets the name. -/
  | request (storage : Storage) (name : String)
  /-- The object of this name is dropped. -/
  | drop (name : String)

/-- What is requested, if anything. -/
def Turn.layout? : Turn → Option Layout
  | .request storage _ => some storage.layout
  | .drop _ => none

namespace Session

variable {ρ : Type} [Behaviour ρ]

/-- The session after one turn. -/
def afterTurn (session : Session ρ) : Turn → Session ρ
  | .request storage name => (session.perform (.zeroed storage name)).1
  | .drop name => (session.perform (.drop name)).1

/-- The session after some turns. -/
def afterTurns (session : Session ρ) (turns : List Turn) : Session ρ :=
  turns.foldl afterTurn session

theorem machine_zeroed (session : Session ρ) (storage : Storage) (name : String) :
    (session.perform (.zeroed storage name)).1.machine =
      session.machine.requested storage.layout := by
  rw [Machine.requested]
  rcases storage with (_ | _) | layout
  · simp only [perform, act, zeroed, Vehicle.zeroed, Storage.layout, bind, EStateM.bind]
    cases Machine.allocate Vehicle.layout session.machine <;> rfl
  · simp only [perform, act, zeroed, Truck.zeroed, Storage.layout, bind, EStateM.bind]
    cases Machine.allocate Truck.layout session.machine <;> rfl
  · simp only [perform, act, Storage.layout]
    cases Machine.allocate layout session.machine <;> rfl

theorem machine_drop (session : Session ρ) (name : String) :
    (session.perform (.drop name)).1.machine = session.machine := by
  simp only [perform, withObject]
  cases session.objects[name]? <;> rfl

/-- To the machine, a session that requests and drops is a run of the requests. -/
theorem machine_afterTurns (session : Session ρ) (turns : List Turn) :
    (session.afterTurns turns).machine =
      session.machine.after (turns.filterMap Turn.layout?) := by
  induction turns generalizing session with
  | nil => rfl
  | cons turn turns ih =>
    cases turn with
    | request storage name =>
      refine (ih _).trans ?_
      rw [afterTurn, machine_zeroed]
      rfl
    | drop name =>
      refine (ih _).trans ?_
      rw [afterTurn, machine_drop]
      rfl

end Session

namespace Machine

/-- The accounts of a heap that was new, after any run of requests: in every session in which these
    were the requests, whatever was dropped in between, the count is that of the requests that were
    met, a limit is kept, and the next request is met if and only if it is granted. If the allocator
    has storage for everything, then whether all requests are met does not depend on their order:
    they are if and only if the limit leaves room for all of them together. -/
theorem allocated_eq_bytes_met (machine : Machine) (limit : Option UInt64)
    (layouts : List Layout) (layout : Layout) (hn : machine.heap = { limit })
    (hc : limit = none →
      Layout.bytes (machine.granted (layouts ++ [layout])) < UInt64.size) :
    (∀ {ρ : Type} [Behaviour ρ] (session : Session ρ) (turns : List Turn),
      session.machine = machine → turns.filterMap Turn.layout? = layouts →
        (session.afterTurns turns).machine = machine.after layouts) ∧
    (machine.after layouts).heap.limit = limit ∧
    (machine.after layouts).heap.allocated.toNat = Layout.bytes (machine.met layouts) ∧
    (∀ most, limit = some most → (machine.after layouts).heap.allocated.toNat ≤ most.toNat) ∧
    (machine.after layouts).Settles layout ∧
    (∀ most, limit = some most → (∀ answer ∈ machine.answers, answer = true) →
      ∀ layouts', layouts'.Perm layouts →
        (machine.met layouts' = layouts' ↔ Layout.bytes layouts ≤ most.toNat)) := by
  have hl : machine.heap.limit = limit := by rw [hn]
  have h0 : machine.heap.allocated.toNat = 0 := by rw [hn]; rfl
  have hrun : machine.Countable (layouts ++ [layout]) := by
    intro h
    rw [h0, Nat.zero_add]
    exact hc (hl.symm.trans h)
  have hd := accounted_after hrun.of_append
  refine ⟨?_, hd.limit.trans hl, ?_, ?_, hrun.after.settles, ?_⟩
  · intro ρ _ session turns hs ht
    rw [session.machine_afterTurns, hs, ht]
  · rw [hd.count, h0, Nat.zero_add, met_eq_granted hrun.of_append]
  · intro most hm
    exact hd.kept most (hl.trans hm) (h0 ▸ Nat.zero_le _)
  · intro most hm ha layouts' hp
    rw [met_eq_self_iff (hl.trans hm) (h0 ▸ Nat.zero_le _) ha, h0, Nat.zero_add,
      Layout.bytes_eq_of_perm hp]

/-- A heap of 20 bytes, with an allocator that refuses the second time. -/
def scarce : Machine where
  heap := { limit := some 20 }
  answers := [true, false]
  clock := ⟨0, 0, 0, ""⟩

/-- A heap without limit. -/
def ample : Machine where
  clock := ⟨0, 0, 0, ""⟩

/-- After a vehicle, there is no room for a truck, though the vehicle is dropped. There is room for
    a `Gear`, for which the allocator has to be asked twice. Then the heap is full, and only a
    `Mark` fits, which has no bytes. Without a limit, the count may become the largest word. -/
theorem allocated_eq_bytes_met_scarce :
    let gear : Layout := ⟨"parts::Gear", 4⟩
    let turns : List Turn := [.request (.object .vehicle) "first", .drop "first",
      .request (.object .truck) "second", .request (.plain gear) "", .request (.plain gear) ""]
    let session : Session Empty := { machine := scarce }
    (session.afterTurns turns).machine.heap.allocated.toNat = 20 ∧
      (session.afterTurns turns).machine.Meets ⟨"Mark", 0⟩ ∧
      ¬(session.afterTurns turns).machine.Meets gear ∧
      (ample.after [⟨"Tank", 0xFFFFFFFFFFFFFFF0⟩]).Meets ⟨"Fleet", 15⟩ := by
  intro gear turns session
  obtain ⟨hafter, -, hcount, -, hmark, -⟩ := allocated_eq_bytes_met scarce (some 20)
    [Vehicle.layout, Truck.layout, gear, gear] ⟨"Mark", 0⟩ rfl (by decide)
  obtain ⟨-, -, -, -, hgear, -⟩ := allocated_eq_bytes_met scarce (some 20)
    [Vehicle.layout, Truck.layout, gear, gear] gear rfl (by decide)
  obtain ⟨-, -, -, -, hfleet, -⟩ := allocated_eq_bytes_met ample none
    [⟨"Tank", 0xFFFFFFFFFFFFFFF0⟩] ⟨"Fleet", 15⟩ rfl (by decide +kernel)
  rw [hafter session turns rfl rfl, hmark.meets_iff, hgear.meets_iff, hfleet.meets_iff]
  refine ⟨hcount.trans ?_, ?_, ?_, ?_⟩
  · decide +kernel
  · decide +kernel
  · decide +kernel
  · decide +kernel

end Machine

end SlotDispatch
