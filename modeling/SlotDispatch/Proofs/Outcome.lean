/-!
# Outcomes

A computation that may fail is described by what holds of its result and of its error
(`Outcome`). Such descriptions go along with the parts of the computation: one after the other
(`Outcome.bind`), over the items of a list (`Outcome.mapM`), or with a state that is passed from
item to item (`Outcome.foldlM`).
-/

namespace SlotDispatch

/-- The outcome of a computation is good: a result that is `good`, or an error that is `due`. -/
def Outcome {ε α : Type} (due : ε → Prop) (good : α → Prop) : Except ε α → Prop
  | .ok a => good a
  | .error e => due e

namespace Outcome

variable {ε α β : Type} {due : ε → Prop} {good : α → Prop} {good' : β → Prop}

theorem bind {x : Except ε α} {f : α → Except ε β} (h : Outcome due good x)
    (hf : ∀ a, good a → Outcome due good' (f a)) : Outcome due good' (x >>= f) := by
  cases x with
  | error e => exact h
  | ok a => exact hf a h

theorem mono {x : Except ε α} {good' : α → Prop} (h : Outcome due good x)
    (hg : ∀ a, good a → good' a) : Outcome due good' x := by
  cases x with
  | error e => exact h
  | ok a => exact hg a h

theorem imp {x : Except ε α} {due' : ε → Prop} (h : Outcome due good x)
    (hd : ∀ e, due e → due' e) : Outcome due' good x := by
  cases x with
  | error e => exact hd e h
  | ok a => exact h

theorem of_true (x : Except ε α) : Outcome (fun _ => True) (fun _ => True) x := by
  cases x <;> trivial

theorem mapM {f : α → Except ε β} {l : List α} (h : ∀ a ∈ l, Outcome due good' (f a)) :
    Outcome due (∀ b ∈ ·, good' b) (l.mapM f) := by
  induction l with
  | nil => exact nofun
  | cons a l ih =>
    rw [List.mapM_cons]
    refine (h a List.mem_cons_self).bind fun b hb => ?_
    refine (ih fun a ha => h a (List.mem_cons_of_mem _ ha)).bind fun bs hbs => ?_
    exact List.forall_mem_cons.2 ⟨hb, hbs⟩

theorem foldlM {f : α → β → Except ε α} {l : List β} {a : α} (ha : good a)
    (h : ∀ a, good a → ∀ b ∈ l, Outcome due good (f a b)) : Outcome due good (l.foldlM f a) := by
  induction l generalizing a with
  | nil => exact ha
  | cons b l ih =>
    rw [List.foldlM_cons]
    refine (h a ha b List.mem_cons_self).bind fun a' ha' => ?_
    exact ih ha' fun a ha b hb => h a ha b (List.mem_cons_of_mem _ hb)

end Outcome

theorem exists_of_isOk {ε α : Type} {x : Except ε α} (h : x.isOk = true) : ∃ a, x = .ok a := by
  cases x with
  | error e => cases h
  | ok a => exact ⟨a, rfl⟩

theorem exists_of_any {ε α : Type} {x : Except ε α} {p : α → Prop} [DecidablePred p]
    (h : x.toOption.any p = true) : ∃ a, x = .ok a ∧ p a := by
  cases x with
  | error e => cases h
  | ok a => exact ⟨a, rfl, of_decide_eq_true h⟩

end SlotDispatch
