/-!
# Trampolines

A trampoline is a computation written down as data: a finished value, an effect, a deferred
step, or a computation with the continuation of its value. Two ways of evaluating one are
given: `Trampoline.value` follows the nesting of the data, and `Trampoline.run` (in
`GuardedParsing.Trampoline.Run`) keeps the pending continuations in a list, so that no nesting
of the data becomes nesting of calls.

* `value_flatMap`: the value of a bind is the bind of the values.
* `value_flatMap_assoc`: the nesting of binds to the left or to the right does not matter,
  effects included.
-/

namespace GuardedParsing

/-- Effects on a state of type `σ` that may stop with a fault of type `ε`. A fault leaves the
state as it is at that moment. -/
abbrev Effect (σ ε α : Type) : Type := ExceptT ε (StateM σ) α

namespace Effect

variable {σ ε α β : Type}

/-- Performs an effect from a state. -/
def runFrom (act : Effect σ ε α) (s : σ) : Except ε α × σ := act.run.run s

/-- The effect that a function of the state is. -/
def ofFunction (act : σ → Except ε α × σ) : Effect σ ε α := ExceptT.mk act

@[simp] theorem runFrom_ofFunction (act : σ → Except ε α × σ) (s : σ) :
    (ofFunction act).runFrom s = act s := rfl

@[simp] theorem runFrom_pure (a : α) (s : σ) : (pure a : Effect σ ε α).runFrom s = (.ok a, s) := rfl

@[simp] theorem runFrom_throw (e : ε) (s : σ) :
    (throw e : Effect σ ε α).runFrom s = (.error e, s) := rfl

@[simp] theorem runFrom_modify (change : σ → σ) (s : σ) :
    (modify change : Effect σ ε Unit).runFrom s = (.ok (), change s) := rfl

@[simp] theorem runFrom_modifyGet (change : σ → α × σ) (s : σ) :
    (modifyGet change : Effect σ ε α).runFrom s = (.ok (change s).1, (change s).2) := rfl

@[simp] theorem runFrom_get (s : σ) : (get : Effect σ ε σ).runFrom s = (.ok s, s) := rfl

/-- What follows a fault is not performed. -/
theorem runFrom_bind (act : Effect σ ε α) (k : α → Effect σ ε β) (s : σ) :
    (act >>= k).runFrom s =
      match act.runFrom s with
      | (.ok a, s') => (k a).runFrom s'
      | (.error e, s') => (.error e, s') := by
  unfold runFrom
  simp only [ExceptT.run_bind, StateT.run_bind]
  change (match act.run.run s with | (r, s') => _ : Except ε β × σ) = _
  rcases act.run.run s with ⟨_ | _, _⟩ <;> rfl

end Effect

/-- A computation of a value of type `α`, as data. -/
inductive Trampoline (σ ε : Type) : Type → Type 1
  /-- A finished value. -/
  | done {α : Type} (value : α) : Trampoline σ ε α
  /-- An effect, which gives the value. -/
  | perform {α : Type} (act : Effect σ ε α) : Trampoline σ ε α
  /-- A deferred step. -/
  | more {α : Type} (next : Unit → Trampoline σ ε α) : Trampoline σ ε α
  /-- A computation and what follows its value. -/
  | flatMap {α β : Type} (first : Trampoline σ ε β) (andThen : β → Trampoline σ ε α) :
      Trampoline σ ε α

namespace Trampoline

variable {σ ε α β γ : Type}

instance : Monad (Trampoline σ ε) where
  pure := done
  bind := flatMap

/-- Transforms the value of a computation. -/
def mapValue (t : Trampoline σ ε α) (f : α → β) : Trampoline σ ε β := t.flatMap fun a => done (f a)

/-- Stops with a fault. -/
def stop (fault : ε) : Trampoline σ ε α := perform (throw fault)

/-- Changes the state. -/
def update (change : σ → σ) : Trampoline σ ε Unit := perform (modify change)

/-- Changes the state and gives a value. -/
def exchange (change : σ → α × σ) : Trampoline σ ε α := perform (modifyGet change)

/-- Are no further steps required to give the value? -/
def isDone : Trampoline σ ε α → Bool
  | done _ => true
  | _ => false

/-- The value of a computation, by recursion on its nesting. -/
def value : {α : Type} → Trampoline σ ε α → Effect σ ε α
  | _, done a => pure a
  | _, perform act => act
  | _, more next => (next ()).value
  | _, flatMap first andThen => first.value >>= fun b => (andThen b).value

@[simp] theorem value_done (a : α) : (done a : Trampoline σ ε α).value = pure a := rfl

@[simp] theorem value_perform (act : Effect σ ε α) : (perform act).value = act := rfl

@[simp] theorem value_more (next : Unit → Trampoline σ ε α) :
    (more next).value = (next ()).value := rfl

@[simp] theorem value_flatMap (t : Trampoline σ ε β) (k : β → Trampoline σ ε α) :
    (t.flatMap k).value = t.value >>= fun b => (k b).value := rfl

@[simp] theorem value_pure (a : α) : (pure a : Trampoline σ ε α).value = pure a := rfl

@[simp] theorem value_bind (t : Trampoline σ ε β) (k : β → Trampoline σ ε α) :
    (t >>= k).value = t.value >>= fun b => (k b).value := rfl

@[simp] theorem value_mapValue (t : Trampoline σ ε α) (f : α → β) :
    (t.mapValue f).value = t.value >>= fun a => pure (f a) := rfl

@[simp] theorem value_stop (fault : ε) : (stop fault : Trampoline σ ε α).value = throw fault := rfl

@[simp] theorem value_update (change : σ → σ) :
    (update change : Trampoline σ ε Unit).value = modify change := rfl

@[simp] theorem value_exchange (change : σ → α × σ) :
    (exchange change : Trampoline σ ε α).value = modifyGet change := rfl

/-- What a bind does from a state: what follows a fault is not performed. -/
theorem runFrom_bind (t : Trampoline σ ε β) (k : β → Trampoline σ ε α) (s : σ) :
    (t >>= k).value.runFrom s =
      match t.value.runFrom s with
      | (.ok b, s') => (k b).value.runFrom s'
      | (.error e, s') => (.error e, s') := by
  rw [value_bind, Effect.runFrom_bind]

/-- Binds nested to the left and to the right are evaluated alike, effects included. -/
theorem value_flatMap_assoc (t : Trampoline σ ε α) (f : α → Trampoline σ ε β)
    (g : β → Trampoline σ ε γ) :
    ((t.flatMap f).flatMap g).value = (t.flatMap fun a => (f a).flatMap g).value := by
  simp

end Trampoline

end GuardedParsing
