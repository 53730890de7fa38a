import GuardedParsing.Trampoline.Basic

/-!
# Running a trampoline in a loop

`Trampoline.run` evaluates a trampoline step by step. A binding step sets its continuation aside
on a list, a finished value is handed to the continuation on top, and the run is over when none
is left. The list carries the types: each continuation takes what the one above it gives.

* `Moment.next_wf`: every run ends, whatever the trampoline.
* `run_eq_value`: the loop gives the value of the trampoline and leaves the state that the
  direct evaluation leaves.
-/

namespace GuardedParsing

variable {σ ε α β γ : Type}

/-- The continuations still to be applied to a value of the last index, the next one on top,
to end with a value of type `α`. -/
inductive Pending (σ ε α : Type) : Type → Type 1
  | nil : Pending σ ε α α
  | cons {β γ : Type} (andThen : β → Trampoline σ ε γ) (rest : Pending σ ε α γ) :
      Pending σ ε α β

/-- A moment of a run: the computation at hand, the continuations set aside and the state. -/
structure Moment (σ ε α : Type) where
  /-- The type of the value at hand. -/
  {current : Type}
  /-- The computation at hand. -/
  step : Trampoline σ ε current
  /-- What is to be done with its value. -/
  pending : Pending σ ε α current
  /-- The state. -/
  state : σ

namespace Moment

/-- The next moment of the run, or its result and the state it leaves. -/
def next : Moment σ ε α → Moment σ ε α ⊕ (Except ε α × σ)
  | ⟨.done a, .nil, s⟩ => .inr (.ok a, s)
  | ⟨.done a, .cons k rest, s⟩ => .inl ⟨k a, rest, s⟩
  | ⟨.perform act, pending, s⟩ =>
    match act.runFrom s with
    | (.ok a, s') => .inl ⟨.done a, pending, s'⟩
    | (.error e, s') => .inr (.error e, s')
  | ⟨.more t, pending, s⟩ => .inl ⟨t (), pending, s⟩
  | ⟨.flatMap t k, pending, s⟩ => .inl ⟨t, .cons k pending, s⟩

/-- `After c b`: the moment `c` comes right after the moment `b`. -/
def After (c b : Moment σ ε α) : Prop := b.next = .inl c

private theorem acc_done {δ : Type} (pending : Pending σ ε α δ)
    (trampolines : ∀ {β : Type} (t : Trampoline σ ε β) (pending : Pending σ ε α β) (s : σ),
      (∀ a s', Acc After (⟨.done a, pending, s'⟩ : Moment σ ε α)) →
        Acc After (⟨t, pending, s⟩ : Moment σ ε α)) :
    ∀ a s, Acc After (⟨.done a, pending, s⟩ : Moment σ ε α) := by
  induction pending with
  | nil => exact fun a s => ⟨_, fun c h => by simp [After, next] at h⟩
  | cons k rest ih =>
    intro a s
    refine ⟨_, fun c h => ?_⟩
    simp only [After, next, Sum.inl.injEq] at h
    exact h ▸ trampolines (k a) rest s ih

private theorem acc_step (t : Trampoline σ ε β) :
    ∀ (pending : Pending σ ε α β) (s : σ),
      (∀ a s', Acc After (⟨.done a, pending, s'⟩ : Moment σ ε α)) →
        Acc After (⟨t, pending, s⟩ : Moment σ ε α) := by
  induction t with
  | done a => exact fun pending s h => h a s
  | perform act =>
    intro pending s h
    refine ⟨_, fun c hc => ?_⟩
    simp only [After, next] at hc
    split at hc
    · simp only [Sum.inl.injEq] at hc
      exact hc ▸ h _ _
    · simp at hc
  | more t ih =>
    intro pending s h
    refine ⟨_, fun c hc => ?_⟩
    simp only [After, next, Sum.inl.injEq] at hc
    exact hc ▸ ih () pending s h
  | flatMap t k iht ihk =>
    intro pending s h
    refine ⟨_, fun c hc => ?_⟩
    simp only [After, next, Sum.inl.injEq] at hc
    refine hc ▸ iht _ s fun a s' => ⟨_, fun c hc => ?_⟩
    simp only [After, next, Sum.inl.injEq] at hc
    exact hc ▸ ihk a pending s' h

/-- **Every run ends**, whatever the trampoline and the state. -/
theorem next_wf : WellFounded (After (σ := σ) (ε := ε) (α := α)) :=
  ⟨fun ⟨t, pending, s⟩ => acc_step t pending s (acc_done pending acc_step)⟩

instance : WellFoundedRelation (Moment σ ε α) := ⟨After, next_wf⟩

/-- Goes from moment to moment until a result is there. -/
def finish (b : Moment σ ε α) : Except ε α × σ :=
  match _h : b.next with
  | .inl c => c.finish
  | .inr r => r
termination_by b
decreasing_by exact _h

theorem finish_of_next_inl {b c : Moment σ ε α} (h : b.next = .inl c) : b.finish = c.finish := by
  rw [finish]; split <;> simp_all

theorem finish_of_next_inr {b : Moment σ ε α} {r : Except ε α × σ} (h : b.next = .inr r) :
    b.finish = r := by
  rw [finish]; split <;> simp_all

/-- Finishing a run is going on to the value of the computation at hand and finishing from there. -/
theorem finish_eq (t : Trampoline σ ε β) :
    ∀ (pending : Pending σ ε α β) (s : σ),
      (⟨t, pending, s⟩ : Moment σ ε α).finish =
        match t.value.runFrom s with
        | (.ok b, s') => (⟨.done b, pending, s'⟩ : Moment σ ε α).finish
        | (.error e, s') => (.error e, s') := by
  induction t with
  | done a => exact fun pending s => rfl
  | perform act =>
    intro pending s
    rcases h : act.runFrom s with ⟨a | a, s'⟩
    · rw [finish_of_next_inr (r := (.error a, s')) (by simp [next, h])]
      simp [h]
    · rw [finish_of_next_inl (c := ⟨.done a, pending, s'⟩) (by simp [next, h])]
      simp [h]
  | more t ih => exact fun pending s => (finish_of_next_inl rfl).trans (ih () pending s)
  | flatMap t k iht ihk =>
    intro pending s
    rw [finish_of_next_inl rfl, iht]
    rw [Trampoline.value_flatMap, Effect.runFrom_bind]
    rcases t.value.runFrom s with ⟨e | b, s'⟩
    · rfl
    · exact (finish_of_next_inl rfl).trans (ihk b pending s')

end Moment

namespace Trampoline

/-- Runs a computation from a state, in a loop. -/
def run (t : Trampoline σ ε α) (s : σ) : Except ε α × σ := Moment.finish ⟨t, .nil, s⟩

/-- **The loop is a faithful evaluator**: it gives the value of the computation and leaves the
state that the direct evaluation leaves. -/
theorem run_eq_value (t : Trampoline σ ε α) (s : σ) : t.run s = t.value.runFrom s := by
  rw [run, Moment.finish_eq]
  rcases t.value.runFrom s with ⟨e | a, s'⟩
  · rfl
  · exact Moment.finish_of_next_inr rfl

end Trampoline

end GuardedParsing
