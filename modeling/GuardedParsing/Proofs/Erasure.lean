import GuardedParsing.Trampoline.Run

/-!
# The loop without types

The loop of a trampoline as a machine that knows no types. Values are boxed; a continuation unboxes
what it is given, and a box may hold a value of another type than the continuation takes. A program
is turned into steps of this machine (`Trampoline.raw`), and so is every moment of the typed loop.

* `Moment.next_raw`, `Moment.call?_raw`: the machine follows the typed loop step by step, and calls
  the same closures.
* `Moment.exists_runFor`: so it comes to the end of the typed loop, without a mistyped value.
* `Trampoline.direct`: the direct evaluation, with the calls that it makes;
  `Moment.calls_eq`: the loop makes the same calls.
* `run_faithful`: **the loop gives the value of the direct evaluation, makes its calls, each once and
  in its order, and never mistakes the type of a value.**
-/

namespace GuardedParsing

/-- A value whose type is not known from outside. -/
structure Boxed where
  {type : Type}
  value : type

open Classical in
/-- The value in a box, if it has the type. -/
noncomputable def Boxed.downcast (α : Type) (v : Boxed) : Option α :=
  if h : v.type = α then some (cast h v.value) else none

@[simp] theorem Boxed.downcast_mk {α : Type} (a : α) : Boxed.downcast α ⟨a⟩ = some a := dif_pos rfl

variable {σ ε α β γ : Type}

/-- A step of a computation, without types. -/
inductive RawStep (σ ε : Type) : Type 1 where
  /-- A finished value. -/
  | done (value : Boxed)
  /-- An effect, which gives the value. -/
  | perform (act : σ → Except ε Boxed × σ)
  /-- A deferred step. -/
  | more (next : Unit → RawStep σ ε)
  /-- A step and what follows its value. -/
  | bind (first : RawStep σ ε) (andThen : Boxed → RawStep σ ε)
  /-- A continuation was given a value of the wrong type. -/
  | mistyped

/-- A result in a box. -/
def boxResult : Except ε α × σ → Except ε Boxed × σ
  | (.ok a, s) => (.ok ⟨a⟩, s)
  | (.error e, s) => (.error e, s)

/-- The steps of a computation, without types. -/
noncomputable def Trampoline.raw : {α : Type} → Trampoline σ ε α → RawStep σ ε
  | _, done a => .done ⟨a⟩
  | _, perform act => .perform fun s => boxResult (act.runFrom s)
  | _, more t => .more fun _ => (t ()).raw
  | _, @flatMap _ _ _ β t k => .bind t.raw fun v => (v.downcast β).elim .mistyped fun b => (k b).raw

/-- A continuation without types: it unboxes what it is given. -/
noncomputable def rawThen (k : β → Trampoline σ ε α) (v : Boxed) : RawStep σ ε :=
  (v.downcast β).elim .mistyped fun b => (k b).raw

@[simp] theorem rawThen_mk (k : β → Trampoline σ ε α) (b : β) : rawThen k ⟨b⟩ = (k b).raw := by
  rw [rawThen, Boxed.downcast_mk, Option.elim_some]

/-- The continuations still to be applied, without types. -/
noncomputable def Pending.raw : {β : Type} → Pending σ ε α β → List (Boxed → RawStep σ ε)
  | _, nil => []
  | _, cons k rest => rawThen k :: rest.raw

/-- A moment of the loop without types. -/
structure RawLoop (σ ε : Type) where
  step : RawStep σ ε
  pending : List (Boxed → RawStep σ ε)
  state : σ

/-- A moment of the loop, without its types. -/
noncomputable def Moment.raw (m : Moment σ ε α) : RawLoop σ ε := ⟨m.step.raw, m.pending.raw, m.state⟩

/-- The call of a closure: a deferred step is taken, or a continuation gets its value. -/
inductive Call (σ ε : Type) : Type 1 where
  | force {α : Type} (next : Unit → Trampoline σ ε α)
  | resume {α β : Type} (andThen : β → Trampoline σ ε α) (value : β)

/-- The call of a closure without types. -/
inductive RawCall (σ ε : Type) : Type 1 where
  | force (next : Unit → RawStep σ ε)
  | resume (andThen : Boxed → RawStep σ ε) (value : Boxed)

/-- A call, without types. -/
noncomputable def Call.raw : Call σ ε → RawCall σ ε
  | force t => .force fun _ => (t ()).raw
  | resume k b => .resume (rawThen k) ⟨b⟩

namespace RawLoop

/-- The next moment of the loop, or its result and the state it leaves. The last value is unboxed;
there is no result where a value has the wrong type. -/
noncomputable def next (α : Type) : RawLoop σ ε → RawLoop σ ε ⊕ (Option (Except ε α) × σ)
  | ⟨.done v, [], s⟩ => .inr ((v.downcast α).map .ok, s)
  | ⟨.done v, k :: rest, s⟩ => .inl ⟨k v, rest, s⟩
  | ⟨.perform act, pending, s⟩ =>
    match act s with
    | (.ok v, s') => .inl ⟨.done v, pending, s'⟩
    | (.error e, s') => .inr (some (.error e), s')
  | ⟨.more t, pending, s⟩ => .inl ⟨t (), pending, s⟩
  | ⟨.bind t k, pending, s⟩ => .inl ⟨t, k :: pending, s⟩
  | ⟨.mistyped, _, s⟩ => .inr (none, s)

/-- The closure that is called next. -/
def call? : RawLoop σ ε → Option (RawCall σ ε)
  | ⟨.done v, k :: _, _⟩ => some (.resume k v)
  | ⟨.more t, _, _⟩ => some (.force t)
  | _ => none

/-- What the loop has come to within a number of steps, if it has: the closures that it called, the
result and the state. -/
noncomputable def runFor (α : Type) :
    Nat → RawLoop σ ε → Option (List (RawCall σ ε) × Option (Except ε α) × σ)
  | 0, _ => none
  | n + 1, b =>
    match b.next α with
    | .inl c => (c.runFor α n).map fun r => (b.call?.toList ++ r.1, r.2)
    | .inr r => some (b.call?.toList, r)

theorem runFor_mono {b : RawLoop σ ε} {n k : Nat}
    {r : List (RawCall σ ε) × Option (Except ε α) × σ} (h : b.runFor α n = some r) (hk : n ≤ k) :
    b.runFor α k = some r := by
  induction n generalizing b k r with
  | zero => cases h
  | succ n ih =>
    obtain ⟨k, rfl⟩ : ∃ j, k = j + 1 := ⟨k - 1, by omega⟩
    rw [runFor] at h ⊢
    split at h
    · obtain ⟨r', hr', hr⟩ := Option.map_eq_some_iff.1 h
      rw [ih hr' (by omega)]
      exact congrArg some hr
    · exact h

end RawLoop

namespace Moment

/-- **The loop without types follows the typed one.** -/
theorem next_raw (m : Moment σ ε α) :
    m.raw.next α =
      match m.next with
      | .inl c => .inl c.raw
      | .inr (res, s) => .inr (some res, s) := by
  obtain ⟨t, pending, s⟩ := m
  cases t with
  | done a =>
    cases pending with
    | nil => simp [raw, next, Trampoline.raw, Pending.raw, RawLoop.next]
    | cons k rest => simp [raw, next, Trampoline.raw, Pending.raw, RawLoop.next]
  | perform act =>
    simp only [raw, next, Trampoline.raw, RawLoop.next]
    rcases act.runFrom s with ⟨e | a, s'⟩ <;> rfl
  | more t => rfl
  | flatMap t k => rfl

/-- The closure that is called next. -/
def call? : Moment σ ε α → Option (Call σ ε)
  | ⟨.done a, .cons k _, _⟩ => some (.resume k a)
  | ⟨.more t, _, _⟩ => some (.force t)
  | _ => none

theorem call?_raw (m : Moment σ ε α) : m.raw.call? = m.call?.map Call.raw := by
  obtain ⟨t, pending, s⟩ := m
  cases t with
  | done a => cases pending <;> rfl
  | perform act | more t | flatMap t k => rfl

/-- The closures that are called from a moment on, in order. -/
def calls (m : Moment σ ε α) : List (Call σ ε) :=
  m.call?.toList ++
    match _h : m.next with
    | .inl c => c.calls
    | .inr _ => []
termination_by m
decreasing_by exact _h

theorem calls_of_next_inl {m c : Moment σ ε α} (h : m.next = .inl c) :
    m.calls = m.call?.toList ++ c.calls := by
  rw [calls]; split <;> simp_all

theorem calls_of_next_inr {m : Moment σ ε α} {r : Except ε α × σ} (h : m.next = .inr r) :
    m.calls = m.call?.toList := by
  rw [calls]; split <;> simp_all

/-- **The loop without types comes to the end of the typed one**, and calls the same closures on the
way. -/
theorem exists_runFor (m : Moment σ ε α) :
    ∃ n, m.raw.runFor α n = some (m.calls.map Call.raw, some m.finish.1, m.finish.2) := by
  -- by induction on the moments that are still to come
  induction m using next_wf.induction with
  | _ m ih =>
    have hnext := m.next_raw
    have hcall : m.raw.call?.toList = m.call?.toList.map Call.raw := by
      rw [call?_raw, Option.toList_map]
    rcases h : m.next with c | ⟨res, s⟩ <;> rw [h] at hnext
    · obtain ⟨n, hn⟩ := ih c h
      refine ⟨n + 1, ?_⟩
      rw [RawLoop.runFor, hnext]
      simp only [hn, Option.map_some]
      rw [hcall, calls_of_next_inl h, finish_of_next_inl h, List.map_append]
    · refine ⟨1, ?_⟩
      rw [RawLoop.runFor, hnext, hcall, calls_of_next_inr h, finish_of_next_inr h]

end Moment

namespace Trampoline

/-- The direct evaluation, by recursion on the computation: the closures that it calls, in order, the
result and the state. -/
def direct : {α : Type} → Trampoline σ ε α → σ → List (Call σ ε) × Except ε α × σ
  | _, done a, s => ([], .ok a, s)
  | _, perform act, s => ([], act.runFrom s)
  | _, more t, s => (.force t :: ((t ()).direct s).1, ((t ()).direct s).2)
  | _, flatMap t k, s =>
    match t.direct s with
    | (calls, .ok b, s') => (calls ++ .resume k b :: ((k b).direct s').1, ((k b).direct s').2)
    | (calls, .error e, s') => (calls, .error e, s')

theorem direct_snd (t : Trampoline σ ε α) (s : σ) : (t.direct s).2 = t.value.runFrom s := by
  induction t generalizing s with
  | done a => rfl
  | perform act => rfl
  | more t ih => exact ih () s
  | flatMap t k iht ihk =>
    rw [value_flatMap, Effect.runFrom_bind, ← iht, direct]
    rcases t.direct s with ⟨calls, e | b, s'⟩
    · rfl
    · exact ihk b s'

end Trampoline

/-- The loop calls what the direct evaluation of the computation at hand calls, and then what is
called with its value. -/
theorem Moment.calls_eq (t : Trampoline σ ε β) :
    ∀ (pending : Pending σ ε α β) (s : σ),
      (⟨t, pending, s⟩ : Moment σ ε α).calls =
        match t.direct s with
        | (calls, .ok b, s') => calls ++ (⟨.done b, pending, s'⟩ : Moment σ ε α).calls
        | (calls, .error _, _) => calls := by
  induction t with
  | done a => exact fun pending s => rfl
  | perform act =>
    intro pending s
    rcases h : act.runFrom s with ⟨e | a, s'⟩
    · rw [calls_of_next_inr (r := (.error e, s')) (by simp [next, h])]
      simp [Trampoline.direct, h, call?]
    · rw [calls_of_next_inl (c := ⟨.done a, pending, s'⟩) (by simp [next, h])]
      simp [Trampoline.direct, h, call?]
  | more t ih =>
    intro pending s
    rw [calls_of_next_inl rfl, ih () pending s, Trampoline.direct]
    rcases (t ()).direct s with ⟨calls, e | b, s'⟩ <;> rfl
  | flatMap t k iht ihk =>
    intro pending s
    rw [calls_of_next_inl rfl, iht, Trampoline.direct]
    rcases t.direct s with ⟨calls, e | b, s'⟩
    · rfl
    -- the continuation is called between the calls of the two computations
    · simp only [calls_of_next_inl (show next ⟨.done b, .cons k pending, s'⟩ = _ from rfl), ihk]
      rcases (k b).direct s' with ⟨calls', e | c, s''⟩ <;> simp [call?]

/-- **The loop is a faithful evaluator.** From every state, a computation runs to the result of its
direct evaluation, and leaves its state. The loop without types comes to this result as well: the
last value and all that continuations are given have the right types, and the closures that it calls
are those that the direct evaluation calls, in the same order and each as often. Binds nested to the
left and to the right run alike, effects included. -/
theorem run_faithful (t : Trampoline σ ε α) (s : σ) :
    t.run s = t.value.runFrom s ∧ (t.direct s).2 = t.value.runFrom s ∧
    (∃ n, ∀ k ≥ n, (Moment.raw ⟨t, .nil, s⟩ : RawLoop σ ε).runFor α k =
      some ((t.direct s).1.map Call.raw, some (t.run s).1, (t.run s).2)) ∧
    ∀ {β γ : Type} (f : α → Trampoline σ ε β) (h : β → Trampoline σ ε γ),
      ((t.flatMap f).flatMap h).run s = (t.flatMap fun a => (f a).flatMap h).run s := by
  refine ⟨t.run_eq_value s, t.direct_snd s, ?_, fun f h => ?_⟩
  · obtain ⟨n, hn⟩ := Moment.exists_runFor (⟨t, .nil, s⟩ : Moment σ ε α)
    have hcalls : (⟨t, .nil, s⟩ : Moment σ ε α).calls = (t.direct s).1 := by
      rw [Moment.calls_eq]
      rcases t.direct s with ⟨calls, e | a, s'⟩
      · rfl
      · exact (congrArg (calls ++ ·) (Moment.calls_of_next_inr rfl)).trans (List.append_nil calls)
    rw [hcalls] at hn
    exact ⟨n, fun k hk => RawLoop.runFor_mono hn hk⟩
  · rw [Trampoline.run_eq_value, Trampoline.run_eq_value, Trampoline.value_flatMap_assoc]

end GuardedParsing
