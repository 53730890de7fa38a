import GuardedParsing.Proofs.Interruption
import GuardedParsing.Proofs.Reentry
import Mathlib.Data.Finset.Lattice.Lemmas

/-!
# Every application restores the activations that are going on

A rule is entered in one step of a parse and left in another one, by a frame that waits until its
definition has an outcome. In between the set of activations is shared by all that is applied. The
frames of the rules that were entered and not left tell what the set has come to: it is the set from
which the application started, and the activations of these rules.

* `Machine.next_above`: a step of an application does not depend on the frames that wait for its
  outcome, so that its run is its own run over these frames (`inside_above_iff`).
* `Registers.Begun.turn`: each way in which a step deals with activations keeps the account of what
  was begun, in the record, among the frames and in the set.
* `activations_restored`: **the set of activations is that from which an application started and
  those of the rules entered in it and not left, at every moment, and the former set alone when the
  application has an outcome.** A rule is met again only where it is in this set.
-/

namespace GuardedParsing

/-! ## What is going on after an event -/

/-- What is going on after an event, the innermost first, besides the activations of `outer`. A rule
is entered where it is not going on, and met again where it is; the rule that is left is the
innermost one. -/
def Event.goingOn (outer : Finset Activation) (opened : List Activation) :
    Event → Option (List Activation)
  | entered x _ => if x ∈ outer ∨ x ∈ opened then none else some (x :: opened)
  | reentered x _ => if x ∈ outer ∨ x ∈ opened then some opened else none
  | left x =>
    match opened with
    | [] => none
    | innermost :: opened => if innermost = x then some opened else none
  | _ => some opened

theorem Event.goingOn_of_not_isActivation {outer : Finset Activation} {opened : List Activation}
    {ev : Event} (h : ¬ev.IsActivation) : ev.goingOn outer opened = some opened := by
  cases ev with
  | entered | left | reentered => exact absurd trivial h
  | defined | stopped | observed | matched | failed => rfl

namespace Registers

/-- From `σ` on to `σ'`, the activations of `opened` were begun and are going on, the innermost
first. -/
structure Begun (σ σ' : Registers) (opened : List Activation) : Prop where
  /-- The record tells it. -/
  record : ∃ es, σ'.events.toList = σ.events.toList ++ es ∧
    es.foldlM (Event.goingOn σ.active) [] = some opened
  /-- The set holds them, what it held before and nothing else. -/
  active : σ'.active = σ.active ∪ opened.toFinset
  /-- Each of them was begun once. -/
  nodup : opened.Nodup
  /-- None of them was going on before. -/
  fresh : ∀ x ∈ opened, x ∉ σ.active

namespace Begun

variable {σ σ₁ σ₂ : Registers} {opened opened' : List Activation} {ev : Event} {x : Activation}

theorem refl (σ : Registers) : σ.Begun σ [] := ⟨⟨[], by simp, rfl⟩, by simp, .nil, by simp⟩

theorem mem_active (h : σ.Begun σ₁ opened) : x ∈ σ₁.active ↔ x ∈ σ.active ∨ x ∈ opened := by
  rw [h.active, Finset.mem_union, List.mem_toFinset]

/-- One more event on record. -/
theorem record_push (h : σ.Begun σ₁ opened) (hpush : σ₂.events = σ₁.events.push ev)
    (hev : ev.goingOn σ.active opened = some opened') :
    ∃ es, σ₂.events.toList = σ.events.toList ++ es ∧
      es.foldlM (Event.goingOn σ.active) [] = some opened' := by
  obtain ⟨es, hes, hfold⟩ := h.record
  refine ⟨es ++ [ev], by rw [hpush, Array.toList_push, hes, List.append_assoc], ?_⟩
  rw [List.foldlM_append, hfold]
  simpa using hev

theorem keep (h : σ.Begun σ₁ opened)
    (hrecord : ∃ es, σ₂.events.toList = σ.events.toList ++ es ∧
      es.foldlM (Event.goingOn σ.active) [] = some opened)
    (hactive : σ₂.active = σ₁.active) : σ.Begun σ₂ opened :=
  ⟨hrecord, hactive.trans h.active, h.nodup, h.fresh⟩

theorem enter {name : String} (h : σ.Begun σ₁ opened) (hx : x ∉ σ₁.active)
    (hpush : σ₂.events = σ₁.events.push (.entered x name))
    (hactive : σ₂.active = insert x σ₁.active) : σ.Begun σ₂ (x :: opened) := by
  have hnew : ¬(x ∈ σ.active ∨ x ∈ opened) := mt h.mem_active.2 hx
  obtain ⟨houter, hopened⟩ := not_or.1 hnew
  refine ⟨h.record_push hpush (if_neg hnew), ?_, List.nodup_cons.2 ⟨hopened, h.nodup⟩, ?_⟩
  · rw [hactive, h.active, List.toFinset_cons, Finset.union_insert]
  · rintro y (_ | ⟨_, hy⟩)
    · exact houter
    · exact h.fresh y hy

theorem leave (h : σ.Begun σ₁ (x :: opened)) (hpush : σ₂.events = σ₁.events.push (.left x))
    (hactive : σ₂.active = σ₁.active.erase x) : σ.Begun σ₂ opened := by
  obtain ⟨hx, hnodup⟩ := List.nodup_cons.1 h.nodup
  refine ⟨h.record_push hpush (if_pos rfl), ?_, hnodup, fun y hy => h.fresh y (.tail _ hy)⟩
  have hnew : x ∉ σ.active ∪ opened.toFinset := by
    rw [Finset.mem_union, List.mem_toFinset]
    exact not_or.2 ⟨h.fresh x (.head _), hx⟩
  rw [hactive, h.active, List.toFinset_cons, Finset.union_insert, Finset.erase_insert hnew]

end Begun

end Registers

/-! ## Frames that wait for an outcome -/

variable {τ : Type} {n : Nat} {last : Kind}

namespace Stack

/-- The frames of a stack, and those of `K` beneath them. -/
def append {k : Kind} : Stack τ n .outcome k → Stack τ n last .outcome → Stack τ n last k
  | nil, K => K
  | cons frame rest, K => cons frame (rest.append K)

/-- The number of frames. -/
def length {k : Kind} : Stack τ n last k → Nat
  | nil => 0
  | cons _ rest => rest.length + 1

theorem length_append {k : Kind} (own : Stack τ n .outcome k) (K : Stack τ n last .outcome) :
    (own.append K).length = own.length + K.length := by
  induction own with
  | nil => rw [append, length, Nat.zero_add]
  | cons frame rest ih => rw [append, length, length, ih, Nat.add_right_comm]

theorem eq_nil_of_append_eq {own : Stack τ n .outcome .outcome} {K : Stack τ n last .outcome}
    (h : own.append K = K) : own = nil := by
  have hlength := congrArg length h
  rw [length_append] at hlength
  cases own with
  | nil => rfl
  | cons frame rest =>
    rw [length] at hlength
    omega

end Stack

namespace Machine

/-- The machine with the frames of `K` waiting beneath its own. -/
def above (K : Stack τ n last .outcome) (M : Machine τ n .outcome) : Machine τ n last :=
  ⟨M.control, M.stack.append K, M.registers⟩

theorem eq_outcome_of_above_eq {N : Machine τ n .outcome} {K : Stack τ n last .outcome}
    {out : Outcome (Fin (n + 1)) Value} {σ : Registers} (h : N.above K = outcome out K σ) :
    N = outcome out .nil σ := by
  obtain ⟨control, own, σ'⟩ := N
  rw [above, Machine.mk.injEq] at h
  obtain ⟨rfl, hcontrol, hstack, rfl⟩ := h
  have hcontrol : control = .give out := eq_of_heq hcontrol
  have hown : own = .nil := Stack.eq_nil_of_append_eq (eq_of_heq hstack)
  rw [hcontrol, hown]

/-- What comes next, with the frames of `K` waiting for an outcome. -/
def Next.above (K : Stack τ n last .outcome) : Next τ n .outcome → Next τ n last
  | .inl M => .inl (M.above K)
  | .inr (.ok out, σ) => .inl (outcome out K σ)
  | .inr (.error fault, σ) => .inr (.error fault, σ)

section Above

variable {K : Stack τ n last .outcome} {σ : Registers} {g : Grammar τ}

theorem ask_above {own : Stack τ n .outcome .answer} {p : Parser τ} :
    ask (own.append K) σ p = (ask own σ p).above K := by
  unfold ask
  split
  · rfl
  · split <;> rfl

theorem consult_above {own : Stack τ n .outcome .answer} {p : Parser τ} :
    consult g (own.append K) σ p = (consult g own σ p).above K := by
  cases p with
  | primitive | observed | or | and | many => rfl
  | modified key m part =>
    simp only [consult]
    split <;> rfl
  | sequence key parts => cases parts <;> rfl
  | refer key rule owning =>
    simp only [consult]
    split <;> rfl

theorem resume_above {k k' : Kind} (frame : Frame τ n k k') (x : k.Given n)
    (own : Stack τ n .outcome k') :
    resume frame x (own.append K) σ = (resume frame x own σ).above K := by
  cases frame with
  | modify | observe | merge | pair | prepend | leave | stop | settle => rfl
  | orElse second start =>
    rw [resume_orElse, resume_orElse]
    split <;> rfl
  | andThen | inOrder => cases x <;> rfl
  | again key part start =>
    cases x with
    | success v next =>
      rw [resume, resume]
      split <;> rfl
    | failure position e =>
      rw [resume, resume]
      split <;> rfl
  | orAsk | andAsk | askAll => cases x <;> rfl

end Above

variable [Token τ] {g : Grammar τ} {tokens : Array τ} {K : Stack τ tokens.size last .outcome}

theorem apply_above {own : Stack τ tokens.size .outcome .outcome} {σ : Registers} {p : Parser τ}
    {start : Fin (tokens.size + 1)} :
    apply g tokens start (own.append K) σ p = (apply g tokens start own σ p).above K := by
  cases p with
  | primitive | modified | observed | or | and | many => rfl
  | sequence key parts => cases parts <;> rfl
  | refer key rule owning =>
    rcases hb : g.binding rule with _ | d | _ <;> simp only [apply, hb]
    · rfl
    · split <;> rfl
    · rfl

/-- **A step does not depend on the frames that wait beneath**, unless it hands an outcome to
them. -/
theorem next_above {M : Machine τ tokens.size .outcome} (hM : ∀ out σ, M ≠ outcome out .nil σ) :
    (M.above K).next g tokens = (M.next g tokens).above K := by
  obtain ⟨control, own, σ⟩ := M
  cases control with
  | apply p start => exact apply_above
  | ask p => exact congrArg Sum.inl ask_above
  | consult p => exact consult_above
  | give x =>
    cases own with
    | nil => exact absurd rfl (hM x σ)
    | cons frame rest =>
      rw [next_give]
      exact (next_give g x).trans (congrArg Sum.inl (resume_above frame x rest))

/-- From `M` on, the machine comes to `N`, and before that it does not go on with anything that it
hands to the frames of `K`. -/
abbrev Inside (g : Grammar τ) (tokens : Array τ) (K : Stack τ tokens.size last .outcome) :
    Machine τ tokens.size last → Machine τ tokens.size last → Prop :=
  Relation.ReflTransGen fun N N' =>
    (∀ out σ, N ≠ outcome out K σ) ∧ N.next g tokens = .inl N'

/-- **What is done before an outcome is there is the own run of the application**, over the frames
that wait for the outcome. -/
theorem inside_above_iff {M : Machine τ tokens.size .outcome} {N' : Machine τ tokens.size last} :
    (M.above K).Inside g tokens K N' ↔ ∃ N, M.Steps g tokens N ∧ N' = N.above K := by
  constructor
  · intro h
    induction h with
    | refl => exact ⟨M, .refl, rfl⟩
    | @tail N₁ N₂ _ hstep ih =>
      obtain ⟨N, hN, rfl⟩ := ih
      obtain ⟨hinside, hstep⟩ := hstep
      have hown : ∀ out σ, N ≠ outcome out .nil σ := by
        rintro out σ rfl
        exact hinside out σ rfl
      rw [next_above hown] at hstep
      rcases hnext : N.next g tokens with N'' | ⟨fault | out, σ⟩ <;> rw [hnext] at hstep
      · exact ⟨N'', hN.tail hnext, (Sum.inl.inj hstep).symm⟩
      · cases hstep
      · exact absurd ((end_of_next hnext).2 out rfl) (hown out σ)
  · rintro ⟨N, hN, rfl⟩
    induction hN with
    | refl => exact .refl
    | @tail N₁ N₂ _ hstep ih =>
      have hown : ∀ out σ, N₁ ≠ outcome out .nil σ := by
        rintro out σ rfl
        rw [next] at hstep
        cases hstep
      refine ih.tail ⟨fun out σ h => hown out σ (eq_outcome_of_above_eq h), ?_⟩
      rw [next_above hown, hstep]
      rfl

end Machine

/-! ## The activations in an application -/

theorem Machine.Reenters.mem_active {M : Machine τ n last} {x : Activation} (h : M.Reenters x) :
    x ∈ M.registers.active := by
  cases h with
  | intro hx => exact hx

open Machine in
/-- **Whatever a step does with activations, the account of what was begun is kept**: what was
entered and not left is what the frames are to leave. -/
theorem Registers.Begun.turn {g : Grammar τ} {M N : Machine τ n last} {σ : Registers}
    (h : σ.Begun M.registers M.stack.activations) (hturn : Turn g M N) :
    σ.Begun N.registers N.stack.activations := by
  cases hturn with
  | other hevents hactive hstack =>
    rw [hstack]
    refine h.keep ?_ hactive
    rcases hevents with hsame | ⟨ev, hev, hpush⟩
    · rw [hsame]
      exact h.record
    · exact h.record_push hpush (Event.goingOn_of_not_isActivation hev)
  | enters _ hx hevents hactive hstack =>
    rw [hstack]
    exact h.enter hx hevents hactive
  | leaves hevents hactive hstack =>
    rw [hstack] at h
    exact h.leave hevents hactive
  | reenters hre hevents hactive hstack =>
    rw [hstack]
    exact h.keep (h.record_push hevents (if_pos (h.mem_active.1 hre.mem_active))) hactive

variable [Token τ] {g : Grammar τ} {tokens : Array τ}

/-- So a run keeps it that begins with no rule to leave. -/
theorem Machine.begun_of_steps {M N : Machine τ tokens.size last} (hM : M.stack.activations = [])
    (h : M.Steps g tokens N) : M.registers.Begun N.registers N.stack.activations := by
  induction h with
  | refl =>
    rw [hM]
    exact .refl _
  | tail _ hstep ih => exact ih.turn (turn_of_next hstep)

namespace Machine

/-- The machine is about to apply a rule that has a definition. -/
inductive Uses (g : Grammar τ) : Machine τ n last → Activation → Prop
  | intro {key rule owning K σ definition} {start : Fin (n + 1)}
      (hb : g.binding rule = .bound definition) :
      Uses g ⟨.apply (.refer key rule owning) start, K, σ⟩ ⟨rule, start⟩

omit [Token τ] in
theorem Uses.reenters_iff {M : Machine τ n last} {x : Activation} (h : M.Uses g x) :
    M.Reenters x ↔ x ∈ M.registers.active := by
  refine ⟨Reenters.mem_active, fun hx => ?_⟩
  cases h with
  | intro hb => exact .intro hx

theorem Uses.next {M : Machine τ tokens.size last} {x : Activation} (h : M.Uses g x)
    (hx : x ∉ M.registers.active) :
    ∃ N, M.next g tokens = .inl N ∧
      N.registers = (M.registers.enter x).note (.entered x (g.name x.rule)) := by
  cases h with
  | intro hb => exact ⟨_, next_refer hb hx, rfl⟩

/-- The machine at the beginning of an application. The frames of `K` wait for its outcome. -/
abbrev applying (p : Parser τ) (start : Fin (n + 1)) (K : Stack τ n last .outcome) (σ : Registers) :
    Machine τ n last :=
  ⟨.apply p start, K, σ⟩

section Application

variable {p : Parser τ} {start : Fin (tokens.size + 1)} {K : Stack τ tokens.size last .outcome}
  {N : Machine τ tokens.size last} {σ σ' : Registers} {guard : Guard} {a a' : Account}
  {out : Outcome (Fin (tokens.size + 1)) Value} {fault : Fault}

theorem inside_applying_iff :
    (applying p start K σ).Inside g tokens K N ↔
      ∃ own : Machine τ tokens.size .outcome,
        (applying p start .nil σ).Steps g tokens own ∧ N = own.above K :=
  inside_above_iff (M := applying p start .nil σ)

/-- What was begun at a moment of an application is what its own frames are to leave. -/
theorem begun_of_inside (h : (applying p start K σ).Inside g tokens K N) :
    ∃ own : Stack τ tokens.size .outcome N.kind, N.stack = own.append K ∧
      σ.Begun N.registers own.activations := by
  obtain ⟨own, hown, rfl⟩ := inside_applying_iff.1 h
  exact ⟨own.stack, rfl, begun_of_steps rfl hown⟩

/-- Nothing of it is left when the application has an outcome. -/
theorem begun_nil_of_inside (h : (applying p start K σ).Inside g tokens K (outcome out K σ')) :
    σ.Begun σ' [] := by
  obtain ⟨own, hown, hbegun⟩ := begun_of_inside h
  have hnil : own = .nil := Stack.eq_nil_of_append_eq hown.symm
  rwa [hnil] at hbegun

/-- The own run of an application comes to what its evaluation gives. -/
theorem applying_gives (g : Grammar τ) (p : Parser τ) (start : Fin (tokens.size + 1))
    (guard : Guard) (a : Account) :
    Gives g tokens (applying p start .nil (.of guard.toFinset a))
      (.nil : Stack τ tokens.size .outcome .outcome) ((p.evaluate g tokens guard start).run a).1
      (.of guard.toFinset ((p.evaluate g tokens guard start).run a).2)
      ((p.evaluate g tokens guard start).run a).2 := by
  rw [Trampoline.run_eq_value]
  exact (applies_evaluate g tokens guard p start a).gives .nil _ fun _ => Guard.mem_toFinset

theorem inside_of_run_eq_ok (h : (p.evaluate g tokens guard start).run a = (.ok out, a')) :
    (applying p start K (.of guard.toFinset a)).Inside g tokens K
      (outcome out K (.of guard.toFinset a')) := by
  have hgives := applying_gives g p start guard a
  rw [h] at hgives
  exact inside_applying_iff.2 ⟨_, hgives, rfl⟩

/-- An evaluation without an outcome is broken off in the application. -/
theorem exists_inside_of_run_eq_error
    (h : (p.evaluate g tokens guard start).run a = (.error fault, a')) :
    ∃ N active, (applying p start K (.of guard.toFinset a)).Inside g tokens K N ∧
      N.next g tokens = .inr (.error fault, .of active a') := by
  have hgives := applying_gives g p start guard a
  rw [h] at hgives
  obtain ⟨N, active, hN, hend⟩ := hgives
  have hown : ∀ out σ, N ≠ outcome out .nil σ := by
    rintro out σ rfl
    rw [next] at hend
    cases hend
  refine ⟨N.above K, active, inside_applying_iff.2 ⟨N, hN, rfl⟩, ?_⟩
  rw [next_above hown, hend]
  rfl

/-- The outcome that an application hands to the frames that wait is that of its evaluation. -/
theorem inside_outcome_iff :
    (applying p start K (.of guard.toFinset a)).Inside g tokens K (outcome out K σ) ↔
      ∃ a', (p.evaluate g tokens guard start).run a = (.ok out, a') ∧ σ = .of guard.toFinset a' := by
  constructor
  · intro h
    obtain ⟨N, hN, hout⟩ := inside_applying_iff.1 h
    rw [eq_outcome_of_above_eq hout.symm] at hN
    have hgives := applying_gives g p start guard a
    rcases hrun : (p.evaluate g tokens guard start).run a with ⟨fault | out', a'⟩ <;>
      rw [hrun] at hgives
    · obtain ⟨N', active, hN', hend⟩ := hgives
      cases (end_unique hN hN' rfl hend)
    · cases (end_unique hN hgives rfl rfl)
      exact ⟨a', rfl, rfl⟩
  · rintro ⟨a', hrun, rfl⟩
    exact inside_of_run_eq_ok hrun

/-- What an evaluation adds to the record tells what is going on, and that is nothing when there is
an outcome. -/
theorem goingOn_of_run :
    ∃ es opened, ((p.evaluate g tokens guard start).run a).2.events.toList = a.events.toList ++ es ∧
      es.foldlM (Event.goingOn guard.toFinset) [] = some opened ∧
      (((p.evaluate g tokens guard start).run a).1.isOk = true → opened = []) := by
  rcases hrun : (p.evaluate g tokens guard start).run a with ⟨fault | out, a'⟩
  · obtain ⟨N, active, hN, hend⟩ := exists_inside_of_run_eq_error (K := .nil) hrun
    obtain ⟨own, -, hbegun⟩ := begun_of_inside hN
    obtain ⟨es, hes, hfold⟩ := hbegun.record
    rw [← registers_of_next hend] at hes
    exact ⟨es, _, hes, hfold, by rintro ⟨⟩⟩
  · obtain ⟨es, hes, hfold⟩ := (begun_nil_of_inside (inside_of_run_eq_ok (K := .nil) hrun)).record
    exact ⟨es, [], hes, hfold, fun _ => rfl⟩

end Application

end Machine

open Machine in
/-- **Every application restores the activations that are going on.** Whatever the machine has done
before and whatever waits for the outcome: at every moment of an application, the activations that are
going on are those from its beginning and, besides them, those of the rules entered since and not
left, each of them once; the record and the frames of the application say the same about these. A
rule is met again only where it is one of all those, and entered anywhere else. When the outcome is
handed on, be it a match or a failure, fatal or not, what is going on is what was in the beginning.

The evaluation of a parser under a guard is such an application, which begins with the activations of
the guard: it hands on the outcome of the evaluation, or is broken off where the evaluation is, and
what the evaluation adds to the record leaves no rule entered when there is an outcome. -/
theorem activations_restored (g : Grammar τ) (tokens : Array τ) (p : Parser τ)
    (start : Fin (tokens.size + 1)) (K : Stack τ tokens.size last .outcome) :
    (∀ σ N, (applying p start K σ).Inside g tokens K N →
      ∃ own : Stack τ tokens.size .outcome N.kind, N.stack = own.append K ∧
        σ.Begun N.registers own.activations ∧
        ∀ x, N.Uses g x →
          (N.Reenters x ↔ x ∈ σ.active ∨ x ∈ own.activations) ∧
          (¬N.Reenters x → ∃ N', N.next g tokens = .inl N' ∧
            N'.registers = (N.registers.enter x).note (.entered x (g.name x.rule)))) ∧
    (∀ σ out σ', (applying p start K σ).Inside g tokens K (outcome out K σ') →
      σ'.active = σ.active) ∧
    ∀ (guard : Guard) (a : Account),
      (∀ out σ, (applying p start K (.of guard.toFinset a)).Inside g tokens K (outcome out K σ) ↔
        ∃ a', (p.evaluate g tokens guard start).run a = (.ok out, a') ∧
          σ = .of guard.toFinset a') ∧
      (∀ fault a', (p.evaluate g tokens guard start).run a = (.error fault, a') →
        ∃ N active, (applying p start K (.of guard.toFinset a)).Inside g tokens K N ∧
          N.next g tokens = .inr (.error fault, .of active a')) ∧
      ∃ es opened,
        ((p.evaluate g tokens guard start).run a).2.events.toList = a.events.toList ++ es ∧
        es.foldlM (Event.goingOn guard.toFinset) [] = some opened ∧
        (((p.evaluate g tokens guard start).run a).1.isOk = true → opened = []) := by
  refine ⟨fun σ N hN => ?_, fun σ out σ' h => ?_, fun guard a =>
    ⟨fun out σ => inside_outcome_iff, fun fault a' => exists_inside_of_run_eq_error,
      goingOn_of_run⟩⟩
  · obtain ⟨own, hown, hbegun⟩ := begun_of_inside hN
    refine ⟨own, hown, hbegun, fun x huses => ⟨?_, fun hre => ?_⟩⟩
    · rw [huses.reenters_iff, hbegun.mem_active]
    · exact huses.next (mt huses.reenters_iff.2 hre)
  · have hbegun := begun_nil_of_inside h
    rw [hbegun.active, List.toFinset_nil, Finset.union_empty]

/-- A rule twice in a row. -/
def Parser.twice : Parser Char := .and 1 (.refer 0 0 false) (.refer 0 0 false)

/-- A grammar whose rule 0 matches nothing. -/
def Grammar.nothings : Grammar Char := #[⟨"nothing", .bound (.primitive 2 (.pure .unit))⟩]

/-- The rule 1 is being applied. -/
def Guard.another : Guard := (∅ : Guard).insert ⟨1, 0⟩

/-- The frame that is to leave the rule 1. -/
def Stack.another : Stack Char #['a'].size .outcome .outcome := .cons (.leave ⟨1, 0⟩) .nil

/-- The machine that applies the rule 0 for the second time. -/
def Machine.secondUse : Machine Char #['a'].size .outcome :=
  ⟨.apply (.refer 0 0 false) 0, .cons (.pair .unit) .nil,
    ((((Registers.of Guard.another.toFinset {}).enter ⟨0, 0⟩).note (.entered ⟨0, 0⟩ "nothing")).leave
      ⟨0, 0⟩).note (.left ⟨0, 0⟩)⟩

/-- The application of both, while the rule 1 is being applied. -/
def Machine.firstUse : Machine Char #['a'].size .outcome :=
  applying .twice 0 .another (.of Guard.another.toFinset {})

open Machine in
/-- A rule that matches nothing is applied twice at one position, while another one is being applied.
The second application is no re-entry, and in the end the other activation alone is going on. -/
theorem activations_restored_twice :
    firstUse.Inside .nothings #['a'] .another (secondUse.above .another) ∧
      (secondUse.above .another).Uses .nothings ⟨0, 0⟩ ∧
      ¬(secondUse.above .another).Reenters ⟨0, 0⟩ ∧
      ∃ out σ, firstUse.Inside .nothings #['a'] .another (outcome out .another σ) ∧
        σ.active = Guard.another.toFinset := by
  have hnew : (⟨0, 0⟩ : Activation) ∉ Guard.another := by simp [Guard.another]
  have hnew' : (⟨0, 0⟩ : Activation) ∉ Guard.another.toFinset := mt Guard.mem_toFinset.1 hnew
  obtain ⟨hmoments, hrestored, heval⟩ := activations_restored .nothings #['a'] .twice 0 .another
  have hsteps : (applying .twice 0 .nil (.of Guard.another.toFinset {})).Steps .nothings #['a']
      secondUse :=
    .head rfl (.head (next_refer rfl hnew') (.head rfl (.head rfl (.head rfl .refl))))
  have hinside : firstUse.Inside .nothings #['a'] .another (secondUse.above .another) :=
    inside_applying_iff.2 ⟨secondUse, hsteps, rfl⟩
  have huses : (secondUse.above .another).Uses .nothings ⟨0, 0⟩ := .intro rfl
  refine ⟨hinside, huses, ?_, ?_⟩
  · obtain ⟨own, -, hbegun, hrule⟩ := hmoments _ _ hinside
    obtain ⟨es, hes, hfold⟩ := hbegun.record
    -- what was entered has been left
    obtain rfl : es = [.entered ⟨0, 0⟩ "nothing", .left ⟨0, 0⟩] := hes.symm
    have hlog : [Event.entered ⟨0, 0⟩ "nothing", .left ⟨0, 0⟩].foldlM
        (Event.goingOn Guard.another.toFinset) [] = some [] := by
      simp [Event.goingOn, hnew']
    have hopened : own.activations = [] := Option.some.inj (hfold.symm.trans hlog)
    rw [(hrule _ huses).1, hopened]
    exact not_or.2 ⟨hnew', List.not_mem_nil⟩
  · have huse : ∀ a, Applies .nothings #['a'] .another (.refer 0 0 false) 0 a
        (.ok (.success .unit 0)) ((a.note (.entered ⟨0, 0⟩ "nothing")).note (.left ⟨0, 0⟩)) :=
      fun a => .entered rfl hnew .primitive
    have happ : Applies .nothings #['a'] .another .twice 0 {}
        (.ok (.success (.pair .unit .unit) 0)) _ := .andSecond (huse {}) (huse _)
    have hres := (applies_evaluate .nothings #['a'] .another .twice 0 {}).unique happ
    rw [← Trampoline.run_eq_value] at hres
    rcases hrun : (Parser.twice.evaluate .nothings #['a'] .another 0).run {} with ⟨res, a'⟩
    rw [hrun] at hres
    obtain rfl : res = _ := hres
    have hend := ((heval .another {}).1 _ _).2 ⟨a', hrun, rfl⟩
    exact ⟨_, _, hend, hrestored _ _ _ hend⟩

end GuardedParsing
