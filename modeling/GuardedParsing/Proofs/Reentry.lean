import GuardedParsing.Proofs.Failures
import GuardedParsing.Proofs.Termination

/-!
# A re-entry puts an end to the parse

Where a rule is applied that is being applied already, the parse is over. The machine hands the
failure from frame to frame, and none of them recovers from it: no parser is applied any more, and
no question is asked. What is added on the way are the notes of the frames, the innermost first.

* `Machine.turn_of_next`: what a step of the machine does with the activations that are going on: one
  is begun, the innermost is over, one is met again, or they stay as they are.
* `Machine.follows_of_next`: what a step of the machine adds to the record, and which activations it
  begins.
* `Machine.unwinds`, `Machine.Aborts.steps`: a fatal failure is handed on to the end, and becomes the
  outcome of the parse.
* `reentry_aborts`: **the failure of the re-entry is the failure of the parse, and nothing happens
  after it but that rules are left and observed parsers fail.**
-/

namespace GuardedParsing

/-- An event that closes what is going on: a rule is left, or a parser under observation fails. -/
def Event.Closes : Event → Prop
  | left _ => True
  | failed _ _ _ => True
  | _ => False

/-- An event of a rule: it is applied, its application is over, or it was to be applied again. -/
def Event.IsActivation : Event → Prop
  | entered _ _ | left _ | reentered _ _ => True
  | _ => False

/-- From `σ` on to `σ'`, all that is recorded closes what was going on. -/
def Registers.Closing (σ σ' : Registers) : Prop :=
  ∃ closing, σ'.events = σ.events ++ closing ∧ ∀ ev ∈ closing, ev.Closes

namespace Registers.Closing

theorem refl (σ : Registers) : σ.Closing σ := ⟨#[], by simp, by simp⟩

theorem note (σ : Registers) {ev : Event} (h : ev.Closes) : σ.Closing (σ.note ev) :=
  ⟨#[ev], rfl, by simpa using h⟩

theorem trans {σ₁ σ₂ σ₃ : Registers} (h₁ : σ₁.Closing σ₂) (h₂ : σ₂.Closing σ₃) : σ₁.Closing σ₃ := by
  obtain ⟨closing₁, hevents₁, hcloses₁⟩ := h₁
  obtain ⟨closing₂, hevents₂, hcloses₂⟩ := h₂
  refine ⟨closing₁ ++ closing₂, by rw [hevents₂, hevents₁, Array.append_assoc], fun ev hev => ?_⟩
  exact (Array.mem_append.1 hev).elim (hcloses₁ ev) (hcloses₂ ev)

end Registers.Closing

theorem ParseError.foldl_withContext (notes : List String) (e : ParseError) :
    notes.foldl withContext e = { e with notes := notes.reverse ++ e.notes } := by
  induction notes generalizing e with
  | nil => rfl
  | cons note notes ih =>
    rw [List.foldl_cons, ih]
    simp [withContext]

theorem ParseError.isFatal_foldl_withContext (notes : List String) (e : ParseError) :
    (notes.foldl withContext e).isFatal = e.isFatal := by
  rw [foldl_withContext]
  rfl

variable {τ : Type} {n : Nat} {last : Kind}

/-- The notes that a frame adds to an error. -/
def Frame.notes {k k' : Kind} : Frame τ n k k' → List String
  | modify m _ => m.notes
  | _ => []

/-- The notes that the frames of a stack add to an error, the innermost first. -/
def Stack.notes {k : Kind} : Stack τ n last k → List String
  | nil => []
  | cons frame rest => frame.notes ++ rest.notes

/-- The activations that a frame is to leave. -/
def Frame.activations {k k' : Kind} : Frame τ n k k' → List Activation
  | leave x => [x]
  | _ => []

/-- The activations that the frames of a stack are to leave, the innermost first. -/
def Stack.activations {k : Kind} : Stack τ n last k → List Activation
  | nil => []
  | cons frame rest => frame.activations ++ rest.activations

namespace Machine

/-- The machine is about to apply a rule that is being applied at this position already. -/
inductive Reenters : Machine τ n last → Activation → Prop
  | intro {key rule owning K σ} {start : Fin (n + 1)}
      (h : (⟨rule, start⟩ : Activation) ∈ σ.active) :
      Reenters ⟨.apply (.refer key rule owning) start, K, σ⟩ ⟨rule, start⟩

/-- The machine `M` comes to `N`, at a later moment. -/
abbrev Continues [Token τ] (g : Grammar τ) (tokens : Array τ) :
    Machine τ tokens.size last → Machine τ tokens.size last → Prop :=
  Relation.TransGen fun M M' => M.next g tokens = .inl M'

/-- The machine hands on a fatal failure. -/
def Aborts (M : Machine τ n last) : Prop :=
  ∃ place e K σ, M = outcome (.failure place e) K σ ∧ e.isFatal = true

theorem Reenters.not_aborts {M : Machine τ n last} {x : Activation} (h : M.Reenters x) :
    ¬M.Aborts := by
  cases h
  rintro ⟨place, e, K, σ, heq, -⟩
  cases heq

/-- The activations that are going on are those of rules with a definition. -/
def Bound (g : Grammar τ) (M : Machine τ n last) : Prop :=
  ∀ x ∈ M.registers.active, ∃ d, g.binding x.rule = .bound d

theorem bound_start (g : Grammar τ) (p : Parser τ) (c : Cursor τ) (a : Account) :
    (start p c a).Bound g := fun _ hx => absurd hx (Finset.notMem_empty _)

/-- What the step from `M` to `N` does with the activations that are going on. -/
inductive Turn (g : Grammar τ) (M N : Machine τ n last) : Prop
  | other
      (hevents : N.registers.events = M.registers.events ∨
        ∃ ev, ¬ev.IsActivation ∧ N.registers.events = M.registers.events.push ev)
      (hactive : N.registers.active = M.registers.active)
      (hstack : N.stack.activations = M.stack.activations)
  | enters {x : Activation} {name : String} {d : Parser τ} (hb : g.binding x.rule = .bound d)
      (hx : x ∉ M.registers.active)
      (hevents : N.registers.events = M.registers.events.push (.entered x name))
      (hactive : N.registers.active = insert x M.registers.active)
      (hstack : N.stack.activations = x :: M.stack.activations)
  | leaves {x : Activation}
      (hevents : N.registers.events = M.registers.events.push (.left x))
      (hactive : N.registers.active = M.registers.active.erase x)
      (hstack : M.stack.activations = x :: N.stack.activations)
  | reenters {x : Activation} {name : String} (hre : M.Reenters x)
      (hevents : N.registers.events = M.registers.events.push (.reentered x name))
      (hactive : N.registers.active = M.registers.active)
      (hstack : N.stack.activations = M.stack.activations)

theorem turn_of_eq {g : Grammar τ} {M N : Machine τ n last}
    (hevents : N.registers.events = M.registers.events)
    (hactive : N.registers.active = M.registers.active)
    (hstack : N.stack.activations = M.stack.activations) : Turn g M N :=
  .other (.inl hevents) hactive hstack

theorem turn_of_push {g : Grammar τ} {M N : Machine τ n last} {ev : Event}
    (hev : ¬ev.IsActivation) (hevents : N.registers.events = M.registers.events.push ev)
    (hactive : N.registers.active = M.registers.active)
    (hstack : N.stack.activations = M.stack.activations) : Turn g M N :=
  .other (.inr ⟨ev, hev, hevents⟩) hactive hstack

/-- What the step from `M` to `N` adds to the record, and which activations it begins. -/
structure Follows (g : Grammar τ) (M N : Machine τ n last) : Prop where
  events : N.registers.events = M.registers.events ∨
    ∃ ev, N.registers.events = M.registers.events.push ev ∧
      ∀ x name, ev = .reentered x name → M.Reenters x
  active : ∀ x ∈ N.registers.active,
    x ∈ M.registers.active ∨ ∃ d, g.binding x.rule = .bound d

theorem Turn.follows {g : Grammar τ} {M N : Machine τ n last} (h : Turn g M N) : Follows g M N := by
  cases h with
  | other hevents hactive _ =>
    refine ⟨hevents.imp_right ?_, fun x hx => .inl (hactive ▸ hx)⟩
    rintro ⟨ev, hev, hpush⟩
    refine ⟨ev, hpush, ?_⟩
    rintro x name rfl
    exact absurd trivial hev
  | enters hb _ hevents hactive _ =>
    refine ⟨.inr ⟨_, hevents, by rintro _ _ ⟨⟩⟩, fun y hy => ?_⟩
    rw [hactive] at hy
    rcases Finset.mem_insert.1 hy with rfl | hy
    · exact .inr ⟨_, hb⟩
    · exact .inl hy
  | leaves hevents hactive _ =>
    refine ⟨.inr ⟨_, hevents, by rintro _ _ ⟨⟩⟩, fun y hy => .inl ?_⟩
    rw [hactive] at hy
    exact Finset.mem_of_mem_erase hy
  | reenters hre hevents hactive _ =>
    refine ⟨.inr ⟨_, hevents, ?_⟩, fun x hx => .inl (hactive ▸ hx)⟩
    rintro x name ⟨⟩
    exact hre

section Steps

variable {g : Grammar τ} {N : Machine τ n last} {σ : Registers}

theorem turn_ask {p : Parser τ} {K : Stack τ n last .answer} :
    Turn g ⟨.ask p, K, σ⟩ (ask K σ p) := by
  unfold ask
  split
  · exact turn_of_eq rfl rfl rfl
  · split <;> exact turn_of_eq rfl rfl rfl

theorem turn_consult {p : Parser τ} {K : Stack τ n last .answer}
    (h : consult g K σ p = .inl N) : Turn g ⟨.consult p, K, σ⟩ N := by
  cases p with
  | primitive | observed | or | and | many =>
    cases h
    exact turn_of_eq rfl rfl rfl
  | modified key m part =>
    simp only [consult] at h
    split at h <;> cases h <;> exact turn_of_eq rfl rfl rfl
  | sequence key parts =>
    cases parts <;> cases h <;> exact turn_of_eq rfl rfl rfl
  | refer key rule owning =>
    simp only [consult] at h
    split at h <;> cases h <;> exact turn_of_eq rfl rfl rfl

theorem turn_resume {k k' : Kind} (frame : Frame τ n k k') (x : k.Given n)
    (K : Stack τ n last k') : Turn g ⟨.give x, .cons frame K, σ⟩ (resume frame x K σ) := by
  cases frame with
  | modify | merge | pair | prepend | settle => exact turn_of_eq rfl rfl rfl
  | observe key name => cases x <;> exact turn_of_push id rfl rfl rfl
  | orElse second start =>
    rw [resume_orElse]
    split <;> exact turn_of_eq rfl rfl rfl
  | andThen | inOrder => cases x <;> exact turn_of_eq rfl rfl rfl
  | again key part start =>
    cases x with
    | success v next =>
      rw [resume]
      split <;> exact turn_of_eq rfl rfl rfl
    | failure position e =>
      rw [resume]
      split <;> exact turn_of_eq rfl rfl rfl
  | leave activation => exact .leaves rfl rfl rfl
  | stop => exact turn_of_push id rfl rfl rfl
  | orAsk | andAsk | askAll => cases x <;> exact turn_of_eq rfl rfl rfl

end Steps

/-- A frame hands a fatal failure on, adds no more than its note, and records no more than that
something is over. -/
theorem resume_of_isFatal (frame : Frame τ n .outcome .outcome) (place : Fin (n + 1))
    {e : ParseError} (he : e.isFatal = true) (K : Stack τ n last .outcome) (σ : Registers) :
    ∃ σ', resume frame (.failure place e) K σ =
        outcome (.failure place (frame.notes.foldl ParseError.withContext e)) K σ' ∧
      σ.Closing σ' := by
  cases frame with
  | modify m start =>
    refine ⟨σ, ?_, .refl σ⟩
    rw [resume, Modifier.settle_of_isFatal he]
    rfl
  | observe key name => exact ⟨σ.note (.failed key name e), rfl, .note σ trivial⟩
  | orElse second start =>
    refine ⟨σ, ?_, .refl σ⟩
    rw [resume_orElse, if_neg (by simp [Outcome.isRecoverable, he])]
    rfl
  | merge first =>
    refine ⟨σ, ?_, .refl σ⟩
    rw [resume, Outcome.orElse_of_isFatal he]
    rfl
  | again key part start =>
    refine ⟨σ, ?_, .refl σ⟩
    rw [resume, if_pos he]
    rfl
  | andThen | pair | inOrder | prepend => exact ⟨σ, rfl, .refl σ⟩
  | leave x => exact ⟨(σ.leave x).note (.left x), rfl, .note (σ.leave x) trivial⟩

variable [Token τ] {g : Grammar τ} {tokens : Array τ} {M N : Machine τ tokens.size last}

theorem turn_apply {p : Parser τ} {start : Fin (tokens.size + 1)}
    {K : Stack τ tokens.size last .outcome} {σ : Registers}
    (h : apply g tokens start K σ p = .inl N) : Turn g ⟨.apply p start, K, σ⟩ N := by
  cases p with
  | primitive | modified | or | and | many =>
    cases h
    exact turn_of_eq rfl rfl rfl
  | observed =>
    cases h
    exact turn_of_push id rfl rfl rfl
  | sequence key parts => cases parts <;> cases h <;> exact turn_of_eq rfl rfl rfl
  | refer key rule owning =>
    rcases hb : g.binding rule with _ | d | _ <;> simp only [apply, hb] at h
    · cases h
    · split at h <;> cases h
      · rename_i hin
        exact .reenters (.intro hin) rfl rfl rfl
      · rename_i hin
        exact .enters (x := ⟨rule, start⟩) hb hin rfl rfl rfl
    · cases h

/-- **What a step of the machine does with the activations that are going on**: nothing, or one is
begun, ended or met again. -/
theorem turn_of_next (h : M.next g tokens = .inl N) : Turn g M N := by
  obtain ⟨control, K, σ⟩ := M
  cases control with
  | apply p start => exact turn_apply h
  | ask p =>
    cases h
    exact turn_ask
  | consult p => exact turn_consult h
  | give x =>
    cases K with
    | nil =>
      rw [next] at h
      cases h
    | cons frame rest =>
      rw [next_give] at h
      cases h
      exact turn_resume frame x rest

/-- **What a step of the machine adds to the record, and which activations it begins.** -/
theorem follows_of_next (h : M.next g tokens = .inl N) : Follows g M N := (turn_of_next h).follows

/-! ## The record of a run -/

theorem Bound.steps (hM : M.Bound g) (h : M.Steps g tokens N) : N.Bound g := by
  induction h with
  | refl => exact hM
  | tail _ hstep ih => exact fun x hx => ((follows_of_next hstep).active x hx).elim (ih x) id

/-- Along a run the record grows, and whoever finds a re-entry in what is added finds the machine
at that re-entry before. -/
theorem record_of_steps (h : M.Steps g tokens N) :
    ∃ new, N.registers.events = M.registers.events ++ new ∧
      ∀ x name, .reentered x name ∈ new →
        ∃ M', M.Steps g tokens M' ∧ M'.Reenters x ∧ M'.Continues g tokens N := by
  induction h with
  | refl => exact ⟨#[], by simp, by simp⟩
  | @tail N₁ N₂ hsteps hstep ih =>
    obtain ⟨new, hnew, hmoment⟩ := ih
    have hbefore : ∀ x name, .reentered x name ∈ new →
        ∃ M', M.Steps g tokens M' ∧ M'.Reenters x ∧ M'.Continues g tokens N₂ := by
      intro x name hx
      obtain ⟨M', hM', hre, hlater⟩ := hmoment x name hx
      exact ⟨M', hM', hre, hlater.tail hstep⟩
    rcases (follows_of_next hstep).events with hsame | ⟨ev, hev, hnow⟩
    · exact ⟨new, hsame.trans hnew, hbefore⟩
    · refine ⟨new.push ev, by rw [hev, hnew, Array.append_push], ?_⟩
      intro x name hx
      rcases Array.mem_push.1 hx with hx | rfl
      · exact hbefore x name hx
      · exact ⟨N₁, hsteps, hnow x name rfl, .single hstep⟩

/-! ## A fatal failure -/

/-- **A fatal failure is the outcome of the whole parse.** All frames hand it on, with their notes
added. -/
theorem unwinds (place : Fin (tokens.size + 1)) :
    ∀ (K : Stack τ tokens.size .outcome .outcome) {e : ParseError}, e.isFatal = true →
    ∀ σ : Registers, ∃ σ',
      (outcome (.failure place e) K σ).Steps g tokens
        (outcome (.failure place (K.notes.foldl ParseError.withContext e)) .nil σ') ∧
      σ.Closing σ'
  | .nil, _, _, σ => ⟨σ, .refl, .refl σ⟩
  | @Stack.cons _ _ _ _ .outcome frame rest, e, he, σ => by
    obtain ⟨σ₁, hframe, hσ₁⟩ := resume_of_isFatal frame place he rest σ
    have hfatal : (frame.notes.foldl ParseError.withContext e).isFatal = true :=
      (ParseError.isFatal_foldl_withContext frame.notes e).trans he
    obtain ⟨σ₂, hrest, hσ₂⟩ := unwinds place rest hfatal σ₁
    refine ⟨σ₂, .head ((next_give g _).trans (congrArg Sum.inl hframe)) ?_, hσ₁.trans hσ₂⟩
    rw [Stack.notes, List.foldl_append]
    exact hrest
  | @Stack.cons _ _ _ _ .answer frame _, _, _, _ => nomatch frame

/-- The next step of a machine that hands on a fatal failure hands it on as well. -/
theorem Aborts.next (hM : M.Aborts) (h : M.next g tokens = .inl N) : N.Aborts := by
  obtain ⟨place, e, K, σ, rfl, he⟩ := hM
  cases K with
  | nil =>
    rw [Machine.next] at h
    cases h
  | @cons _ k' frame rest =>
    cases k' with
    | outcome =>
      obtain ⟨σ', hframe, -⟩ := resume_of_isFatal frame place he rest σ
      rw [next_give, hframe] at h
      cases h
      exact ⟨place, _, rest, σ', rfl, (ParseError.isFatal_foldl_withContext _ e).trans he⟩
    | answer => cases frame

/-- **A fatal failure is handed on to the end**: no parser is applied any more, and no question is
asked. -/
theorem Aborts.steps (hM : M.Aborts) (h : M.Steps g tokens N) : N.Aborts := by
  induction h with
  | refl => exact hM
  | tail _ hstep ih => exact ih.next hstep

/-! ## A re-entry -/

/-- At a re-entry the machine fails, at the position of the activation and with the error of its
rule, and puts the re-entry on record. -/
theorem Reenters.next {x : Activation} (h : M.Reenters x) (hM : M.Bound g) :
    ∃ (place : Fin (tokens.size + 1)) (K : Stack τ tokens.size last .outcome),
      M.next g tokens =
        .inl (outcome (.failure place (.leftRecursion x.position (g.name x.rule))) K
          (M.registers.note (.reentered x (g.name x.rule)))) ∧
      place.val = x.position ∧ K.notes = M.stack.notes := by
  obtain @⟨key, rule, owning, K, σ, start, hin⟩ := h
  obtain ⟨d, hb⟩ := hM _ hin
  refine ⟨start, K, ?_, rfl, rfl⟩
  simp only [Machine.next, apply, hb]
  exact if_pos hin

/-- After a re-entry the machine hands the failure on, and does nothing else. -/
theorem Reenters.aborts {x : Activation} (h : M.Reenters x) (hM : M.Bound g)
    (hlater : M.Continues g tokens N) : N.Aborts := by
  obtain ⟨place, K, hnext, -, -⟩ := h.next hM
  obtain ⟨M₁, hstep, hsteps⟩ := Relation.TransGen.head'_iff.1 hlater
  rw [hnext] at hstep
  obtain rfl := Sum.inl.inj hstep
  exact Aborts.steps ⟨place, _, K, _, rfl, rfl⟩ hsteps

end Machine

variable [Token τ] (g : Grammar τ) (p : Parser τ) (c : Cursor τ) (a : Account)

/-- The machine of a parse comes to an end, with the result and the events of the parse. -/
theorem parse_runs :
    ∃ N res σ, (Machine.start p c a).Steps g c.source.tokens N ∧
      N.next g c.source.tokens = .inr (res, σ) ∧
      (p.parse g c a).1 = res.map (·.mapPlace c.moveTo) ∧
      (p.parse g c a).2.events = σ.events := by
  obtain ⟨res, happ, hres⟩ := applies_parse g p c a
  have h := happ.gives .nil ∅ (by simp)
  cases res with
  | error fault =>
    obtain ⟨N, active, hN, hend⟩ := h
    exact ⟨N, _, _, hN, hend, hres, rfl⟩
  | ok out => exact ⟨_, _, _, h, rfl, hres, rfl⟩

/-- The parse that comes to the re-entry `x` in the machine `M` is over. -/
structure AbortsAt (x : Activation) (M : Machine τ c.source.tokens.size .outcome) : Prop where
  /-- The parse fails where the rule was entered again, with the error of the rule and the notes of
  the parsers around it. -/
  fails : ∃ place : Cursor τ, place.source = c.source ∧ place.position = x.position ∧
    (p.parse g c a).1 = .ok (.failure place
      { ParseError.leftRecursion x.position (g.name x.rule) with notes := M.stack.notes.reverse })
  /-- The re-entry is the only one on record, and nothing follows on it but what closes. -/
  record : ∃ before closing,
    M.registers.events = a.events ++ before ∧
    (p.parse g c a).2.events =
      a.events ++ before.push (.reentered x (g.name x.rule)) ++ closing ∧
    (∀ y name, .reentered y name ∉ before) ∧ ∀ ev ∈ closing, ev.Closes
  /-- From then on, the failure is handed on and nothing else is done. -/
  handsOn : ∀ N, M.Continues g c.source.tokens N → N.Aborts

variable {g p c a}

open Machine in
/-- The machine is at a re-entry once at most, and the parse that comes to it is over. -/
theorem Machine.Reenters.abortsAt {x : Activation} {M : Machine τ c.source.tokens.size .outcome}
    (h : M.Reenters x) (hM : (start p c a).Steps g c.source.tokens M) : AbortsAt g p c a x M := by
  have hbound : M.Bound g := (bound_start g p c a).steps hM
  obtain ⟨place, K, hnext, hplace, hnotes⟩ := h.next hbound
  have hfatal : (ParseError.leftRecursion x.position (g.name x.rule)).isFatal = true := rfl
  obtain ⟨σ, hunwind, closing, hclosing, hcloses⟩ :=
    unwinds place K hfatal (M.registers.note (.reentered x (g.name x.rule)))
  -- where the frames are done with the failure, the machine is at the end of the parse
  obtain ⟨N, res, σ', hN, hend, hparse, hevents⟩ := parse_runs g p c a
  obtain ⟨rfl, rfl⟩ := Prod.mk.inj (end_unique hN (hM.trans (.head hnext hunwind)) hend rfl)
  obtain ⟨before, hbefore, hmoment⟩ := record_of_steps hM
  refine ⟨⟨c.moveTo place, rfl, hplace, ?_⟩, ⟨before, closing, hbefore, ?_, ?_, hcloses⟩, ?_⟩
  · rw [hparse, ParseError.foldl_withContext, hnotes]
    simp [Except.map, Outcome.mapPlace, ParseError.leftRecursion]
  · rw [hevents, hclosing, Registers.note, hbefore, Array.append_push]
    rfl
  -- an earlier re-entry would have the machine hand its failure on here
  · intro y name hy
    obtain ⟨M', hM', hre', hlater⟩ := hmoment y name hy
    exact h.not_aborts (hre'.aborts ((bound_start g p c a).steps hM') hlater)
  · exact fun N hlater => h.aborts hbound hlater

variable (g p c a)

open Machine in
/-- **A re-entry puts an end to the parse.** Whenever the machine of a parse is about to apply a
rule that is being applied at this position already, the parse fails there with the error of this
rule. No parser recovers from the failure or changes it, but for the notes of the parsers around
it, the innermost first; no parser is applied any more. The re-entries that a parse has on record
are the moments at which the machine is there, so there is one at most. -/
theorem reentry_aborts :
    (∀ x M, (start p c a).Steps g c.source.tokens M → M.Reenters x → AbortsAt g p c a x M) ∧
    ∃ new, (p.parse g c a).2.events = a.events ++ new ∧
      ∀ x name, .reentered x name ∈ new →
        ∃ M, (start p c a).Steps g c.source.tokens M ∧ M.Reenters x := by
  refine ⟨fun x M hM h => h.abortsAt hM, ?_⟩
  obtain ⟨N, res, σ, hN, hend, -, hevents⟩ := parse_runs g p c a
  obtain ⟨new, hnew, hmoment⟩ := record_of_steps hN
  refine ⟨new, ?_, fun x name hx => ?_⟩
  · rw [hevents, registers_of_next hend, hnew]
    rfl
  · obtain ⟨M, hM, hre, -⟩ := hmoment x name hx
    exact ⟨M, hM, hre⟩

/-- A rule that is itself or nothing, with a note on it. -/
def Parser.sign : Parser Char :=
  .modified 2 .optional (.modified 1 (.inContext "sign") (.refer 0 0 false))

/-- The grammar with the rule that is itself or nothing. -/
def Grammar.signs : Grammar Char := #[⟨"sign", .bound .sign⟩]

/-- The machine that parses `+` as a sign, at the moment when it comes back to the rule. -/
def Machine.backAtSign : Machine Char #['+'].size .outcome :=
  ⟨.apply (.refer 0 0 false) 0,
    .cons (.modify (.inContext "sign") 0)
      (.cons (.modify .optional 0) (.cons (.leave ⟨0, 0⟩) .nil)),
    ((Registers.of ∅ {}).enter ⟨0, 0⟩).note (.entered ⟨0, 0⟩ "sign")⟩

open Machine in
/-- The rule is optional where it comes back to itself, and yet the parse fails, with the note of
what encloses the re-entry. -/
theorem reentry_aborts_sign :
    (start (.refer 3 0 true) (Cursor.start ⟨0, #['+']⟩) {}).Steps Grammar.signs #['+'] backAtSign ∧
      backAtSign.Reenters ⟨0, 0⟩ ∧
      ∃ place, ((Parser.refer 3 0 true).parse Grammar.signs (Cursor.start ⟨0, #['+']⟩) {}).1 =
        .ok (.failure place { ParseError.leftRecursion 0 "sign" with notes := ["sign"] }) := by
  have hsteps : (start (.refer 3 0 true) (Cursor.start ⟨0, #['+']⟩) {}).Steps Grammar.signs #['+']
      backAtSign := .head rfl (.head rfl (.head rfl .refl))
  have hre : backAtSign.Reenters ⟨0, 0⟩ := .intro (Finset.mem_insert_self _ _)
  have haborts := (reentry_aborts Grammar.signs (.refer 3 0 true) (Cursor.start ⟨0, #['+']⟩) {}).1
    ⟨0, 0⟩ backAtSign hsteps hre
  obtain ⟨place, -, -, hfails⟩ := haborts.fails
  exact ⟨hsteps, hre, place, hfails⟩

end GuardedParsing
