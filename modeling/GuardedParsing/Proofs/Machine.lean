import GuardedParsing.Proofs.Application
import Mathlib.Data.Finset.Basic
import Mathlib.Logic.Relation

/-!
# A machine for parsing

The evaluation of a parser as a machine that takes one step after the other. Nothing about the
machine says that it comes to an end: its steps are no recursion, a rule may lead back to itself,
and a repetition goes round as long as its part matches. It keeps one set of activations, one index
of the parsers being asked about and one depth for the whole parse, which its steps change and
restore.

* `Machine.next`: the next step of a machine, or the result and the registers it leaves.
* `Machine.runFor`: what a machine has come to within a number of steps.
* `Machine.exists_runFor`: a machine that steps to its result comes to it within some number of
  steps.
* `Machine.end_unique`: it comes to one result only.
-/

namespace GuardedParsing

/-- What the machine is working for: the outcome of an application, or the answer to a question. -/
inductive Kind where
  | outcome
  | answer

/-- What a piece of work of a kind gives, in an input of `n` tokens. -/
abbrev Kind.Given (n : Nat) : Kind → Type
  | outcome => Outcome (Fin (n + 1)) Value
  | answer => Bool

/-- What the machine is about to do. -/
inductive Control (τ : Type) (n : Nat) : Kind → Type where
  /-- To apply a parser. -/
  | apply (p : Parser τ) (start : Fin (n + 1)) : Control τ n .outcome
  /-- To put the question whether a parser accepts empty input. -/
  | ask (p : Parser τ) : Control τ n .answer
  /-- To answer the question from the parts of the parser. -/
  | consult (p : Parser τ) : Control τ n .answer
  /-- To hand on what a piece of work gave. -/
  | give {k : Kind} (x : k.Given n) : Control τ n k

/-- What is to be done with what a piece of work of the first kind gives, for one of the second. -/
inductive Frame (τ : Type) (n : Nat) : Kind → Kind → Type where
  -- of an application
  | modify (m : Modifier) (start : Fin (n + 1)) : Frame τ n .outcome .outcome
  | observe (key : Key) (name : String) : Frame τ n .outcome .outcome
  | orElse (second : Parser τ) (start : Fin (n + 1)) : Frame τ n .outcome .outcome
  | merge (first : Outcome (Fin (n + 1)) Value) : Frame τ n .outcome .outcome
  | andThen (second : Parser τ) : Frame τ n .outcome .outcome
  | pair (v : Value) : Frame τ n .outcome .outcome
  | inOrder (key : Key) (parts : List (Parser τ)) : Frame τ n .outcome .outcome
  | again (key : Key) (part : Parser τ) (start : Fin (n + 1)) : Frame τ n .outcome .outcome
  | prepend (v : Value) : Frame τ n .outcome .outcome
  | leave (activation : Activation) : Frame τ n .outcome .outcome
  -- of an application that waits for an answer
  | stop (part : Key) (start next : Fin (n + 1)) (v : Value) : Frame τ n .answer .outcome
  -- of a question
  | orAsk (second : Parser τ) : Frame τ n .answer .answer
  | andAsk (second : Parser τ) : Frame τ n .answer .answer
  | askAll (key : Key) (parts : List (Parser τ)) : Frame τ n .answer .answer
  | settle (key : Key) (depth : Nat) (outer : Option Nat) : Frame τ n .answer .answer

/-- The frames between a piece of work of a kind and the last one. -/
inductive Stack (τ : Type) (n : Nat) (last : Kind) : Kind → Type where
  | nil : Stack τ n last last
  | cons {k k' : Kind} (frame : Frame τ n k k') (rest : Stack τ n last k') : Stack τ n last k

/-- What the machine changes as it goes. -/
structure Registers where
  /-- The answers that are remembered. -/
  answers : Std.HashMap Key Bool
  /-- The depths of the parsers being asked about. -/
  inProgress : Key → Option Nat
  /-- The number of the parsers being asked about. -/
  depth : Nat
  /-- The least depth of the assumptions that the answer in the making rests on. -/
  assumed : Option Nat
  /-- The activations that are going on. -/
  active : Finset Activation
  events : Array Event

namespace Registers

/-- Adds an event. -/
def note (σ : Registers) (e : Event) : Registers := { σ with events := σ.events.push e }

/-- The answer for a parser that is plain or remembered. -/
def answer? {τ : Type} (σ : Registers) (p : Parser τ) : Option Bool :=
  p.acceptsEmpty?.or σ.answers[p.key]?

/-- Opens the question about a parser. -/
def openQuestion (σ : Registers) (key : Key) : Registers :=
  { σ with
    inProgress := Function.update σ.inProgress key (some (σ.depth + 1))
    depth := σ.depth + 1
    assumed := none }

/-- Closes the question about a parser, which was opened at a depth. -/
def closeQuestion (σ : Registers) (key : Key) (depth : Nat) (outer : Option Nat) (answer : Bool) :
    Registers :=
  let settled := σ.assumed.all (depth ≤ ·)
  { σ with
    inProgress := Function.update σ.inProgress key none
    depth := depth - 1
    answers := if settled then σ.answers.insertIfNew key answer else σ.answers
    assumed :=
      if depth = 1 then none else if settled then outer else shallower outer σ.assumed }

/-- Enters a rule. -/
def enter (σ : Registers) (x : Activation) : Registers := { σ with active := insert x σ.active }

/-- Leaves a rule. -/
def leave (σ : Registers) (x : Activation) : Registers := { σ with active := σ.active.erase x }

end Registers

/-- A machine for an input of `n` tokens, working for a result of kind `last`. -/
structure Machine (τ : Type) (n : Nat) (last : Kind) where
  {kind : Kind}
  control : Control τ n kind
  stack : Stack τ n last kind
  registers : Registers

namespace Machine

variable {τ : Type} {last : Kind}

/-- The next machine, or the result and the registers that are left. -/
abbrev Next (τ : Type) (n : Nat) (last : Kind) : Type :=
  Machine τ n last ⊕ (Except Fault (last.Given n) × Registers)

/-- The machine that hands on the outcome of an application. -/
abbrev outcome {n : Nat} (out : Outcome (Fin (n + 1)) Value) (K : Stack τ n last .outcome)
    (σ : Registers) : Machine τ n last :=
  ⟨.give (k := .outcome) out, K, σ⟩

/-- The machine that hands on the answer to a question. -/
abbrev answer {n : Nat} (empty : Bool) (K : Stack τ n last .answer) (σ : Registers) :
    Machine τ n last :=
  ⟨.give (k := .answer) empty, K, σ⟩

/-- The first step of the answer to a question. -/
def ask {n : Nat} (K : Stack τ n last .answer) (σ : Registers) (p : Parser τ) : Machine τ n last :=
  match σ.answer? p with
  | some known => answer known K σ
  | none =>
    match σ.inProgress p.key with
    | some depth =>
      answer false K { σ with assumed := shallower σ.assumed (some depth) }
    | none => ⟨.consult p, .cons (.settle p.key (σ.depth + 1) σ.assumed) K, σ.openQuestion p.key⟩

/-- The first step of the answer from the parts of a parser. -/
def consult {n : Nat} (g : Grammar τ) (K : Stack τ n last .answer) (σ : Registers) :
    Parser τ → Next τ n last
  | .primitive _ leaf => .inl (answer leaf.acceptsEmpty K σ)
  | .modified _ m p =>
    match m.acceptsEmpty? with
    | some known => .inl (answer known K σ)
    | none => .inl ⟨.ask p, K, σ⟩
  | .observed _ _ p => .inl ⟨.ask p, K, σ⟩
  | .or _ p q => .inl ⟨.ask p, .cons (.orAsk q) K, σ⟩
  | .and _ p q => .inl ⟨.ask p, .cons (.andAsk q) K, σ⟩
  | .sequence _ [] => .inl (answer true K σ)
  | .sequence key (p :: ps) => .inl ⟨.ask p, .cons (.askAll key ps) K, σ⟩
  | .many _ _ => .inl (answer true K σ)
  | .refer _ rule _ =>
    match g.binding rule with
    | .unset => .inl (answer false K { σ with assumed := some 0 })
    | .released => .inr (.error .released, σ)
    | .bound p => .inl ⟨.ask p, K, σ⟩

/-- What a frame does with what it was waiting for. -/
def resume {n : Nat} : {k k' : Kind} → Frame τ n k k' → k.Given n → Stack τ n last k' →
    Registers → Machine τ n last
  | _, _, .modify m start, out, K, σ => outcome (m.settle start out) K σ
  | _, _, .observe key name, out, K, σ => outcome out K (σ.note (.ofOutcome key name out))
  | _, _, .orElse second start, out, K, σ =>
    if Outcome.isRecoverable out then ⟨.apply second start, .cons (.merge out) K, σ⟩
    else outcome out K σ
  | _, _, .merge first, out, K, σ => outcome (first.orElse out) K σ
  | _, _, .andThen second, .success v next, K, σ => ⟨.apply second next, .cons (.pair v) K, σ⟩
  | _, _, .andThen _, .failure position e, K, σ => outcome (.failure position e) K σ
  | _, _, .pair v, out, K, σ => outcome (Outcome.map (.pair v) out) K σ
  | _, _, .inOrder key ps, .success v next, K, σ =>
    ⟨.apply (.sequence key ps) next, .cons (.prepend v) K, σ⟩
  | _, _, .inOrder _ _, .failure position e, K, σ => outcome (.failure position e) K σ
  | _, _, .again key part start, .success v next, K, σ =>
    if start < next then ⟨.apply (.many key part) next, .cons (.prepend v) K, σ⟩
    else ⟨.ask part, .cons (.stop part.key start next v) K, σ⟩
  | _, _, .again _ _ start, .failure position e, K, σ =>
    if e.isFatal then outcome (.failure position e) K σ else outcome (.success (.list []) start) K σ
  | _, _, .prepend v, out, K, σ => outcome (Outcome.map v.prepend out) K σ
  | _, _, .stop part start next v, empty, K, σ =>
    outcome (.success (.list [v]) next) K (σ.note (.stopped part start empty))
  | _, _, .leave x, out, K, σ => outcome out K ((σ.leave x).note (.left x))
  | _, _, .orAsk second, empty, K, σ =>
    bif empty then answer true K σ else ⟨.ask second, K, σ⟩
  | _, _, .andAsk second, empty, K, σ =>
    bif empty then ⟨.ask second, K, σ⟩ else answer false K σ
  | _, _, .askAll key ps, empty, K, σ =>
    bif empty then ⟨.consult (.sequence key ps), K, σ⟩ else answer false K σ
  | _, _, .settle key depth outer, empty, K, σ =>
    answer empty K (σ.closeQuestion key depth outer empty)

section Resume

variable {n : Nat} (σ : Registers)

theorem resume_orElse (second : Parser τ) (start : Fin (n + 1)) (out : Outcome (Fin (n + 1)) Value)
    (K : Stack τ n last .outcome) :
    resume (.orElse second start) out K σ =
      if out.isRecoverable then ⟨.apply second start, .cons (.merge out) K, σ⟩
      else outcome out K σ := rfl

theorem resume_leave (x : Activation) (out : Outcome (Fin (n + 1)) Value)
    (K : Stack τ n last .outcome) :
    resume (.leave x) out K σ = outcome out K ((σ.leave x).note (.left x)) := rfl

theorem resume_settle (key : Key) (depth : Nat) (outer : Option Nat) (empty : Bool)
    (K : Stack τ n last .answer) :
    resume (.settle key depth outer) empty K σ =
      answer empty K (σ.closeQuestion key depth outer empty) := rfl

end Resume

variable [Token τ]

/-- The first step of an application. -/
def apply (g : Grammar τ) (tokens : Array τ) (start : Fin (tokens.size + 1))
    (K : Stack τ tokens.size last .outcome) (σ : Registers) : Parser τ → Next τ tokens.size last
  | .primitive _ leaf => .inl (outcome (leaf.apply tokens start) K σ)
  | .modified _ m part => .inl ⟨.apply part start, .cons (.modify m start) K, σ⟩
  | .observed key name part =>
    .inl ⟨.apply part start, .cons (.observe key name) K, σ.note (.observed key name start)⟩
  | .or _ p q => .inl ⟨.apply p start, .cons (.orElse q start) K, σ⟩
  | .and _ p q => .inl ⟨.apply p start, .cons (.andThen q) K, σ⟩
  | .sequence _ [] => .inl (outcome (.success (.list []) start) K σ)
  | .sequence key (p :: ps) => .inl ⟨.apply p start, .cons (.inOrder key ps) K, σ⟩
  | .many key part => .inl ⟨.apply part start, .cons (.again key part start) K, σ⟩
  | .refer _ rule _ =>
    match g.binding rule with
    | .unset => .inr (.error (.unset (g.name rule)), σ)
    | .released => .inr (.error .released, σ)
    | .bound definition =>
      let x : Activation := ⟨rule, start⟩
      if x ∈ σ.active then
        .inl (outcome (.failure start (.leftRecursion start (g.name rule))) K
          (σ.note (.reentered x (g.name rule))))
      else
        .inl ⟨.apply definition start, .cons (.leave x) K,
          (σ.enter x).note (.entered x (g.name rule))⟩

/-- The next step of a machine. -/
def next (g : Grammar τ) (tokens : Array τ) : Machine τ tokens.size last → Next τ tokens.size last
  | ⟨.apply p start, K, σ⟩ => apply g tokens start K σ p
  | ⟨.ask p, K, σ⟩ => .inl (ask K σ p)
  | ⟨.consult p, K, σ⟩ => consult g K σ p
  | ⟨.give x, .cons frame K, σ⟩ => .inl (resume frame x K σ)
  | ⟨.give x, .nil, σ⟩ => .inr (.ok x, σ)

theorem next_give {tokens : Array τ} {k k' : Kind} {frame : Frame τ tokens.size k k'}
    {K : Stack τ tokens.size last k'} {σ : Registers} (g : Grammar τ) (x : k.Given tokens.size) :
    next g tokens ⟨.give x, .cons frame K, σ⟩ = .inl (resume frame x K σ) := by
  rw [next]

/-- A rule with a definition is entered where it is not being applied. -/
theorem next_refer {tokens : Array τ} {g : Grammar τ} {key : Key} {rule : RuleId} {owning : Bool}
    {definition : Parser τ} {start : Fin (tokens.size + 1)} {K : Stack τ tokens.size last .outcome}
    {σ : Registers} (hb : g.binding rule = .bound definition)
    (hx : (⟨rule, start⟩ : Activation) ∉ σ.active) :
    next g tokens ⟨.apply (.refer key rule owning) start, K, σ⟩ =
      .inl ⟨.apply definition start, .cons (.leave ⟨rule, start⟩) K,
        (σ.enter ⟨rule, start⟩).note (.entered ⟨rule, start⟩ (g.name rule))⟩ := by
  simp only [next, apply, hb]
  exact if_neg hx

/-- What a machine has come to within a number of steps, if it has. -/
def runFor (g : Grammar τ) (tokens : Array τ) :
    Nat → Machine τ tokens.size last → Option (Except Fault (last.Given tokens.size) × Registers)
  | 0, _ => none
  | n + 1, M =>
    match M.next g tokens with
    | .inl M' => runFor g tokens n M'
    | .inr r => some r

/-- The machine `M` comes to `M'` in some steps. -/
abbrev Steps (g : Grammar τ) (tokens : Array τ) :
    Machine τ tokens.size last → Machine τ tokens.size last → Prop :=
  Relation.ReflTransGen fun M M' => M.next g tokens = .inl M'

variable {g : Grammar τ} {tokens : Array τ} {M M' N N' : Machine τ tokens.size last}

/-- A machine that steps to a result has it within some number of steps. -/
theorem exists_runFor {r : Except Fault (last.Given tokens.size) × Registers}
    (h : M.Steps g tokens M') (hr : M'.next g tokens = .inr r) :
    ∃ n, M.runFor g tokens n = some r := by
  induction h using Relation.ReflTransGen.head_induction_on with
  | refl => exact ⟨1, by rw [runFor, hr]⟩
  | head hstep _ ih =>
    obtain ⟨n, hn⟩ := ih
    exact ⟨n + 1, by rw [runFor, hstep]; exact hn⟩

/-- A result stays what it is in more steps. -/
theorem runFor_mono {n k : Nat} {r : Except Fault (last.Given tokens.size) × Registers}
    (h : M.runFor g tokens n = some r) (hk : n ≤ k) : M.runFor g tokens k = some r := by
  induction n generalizing M k with
  | zero => cases h
  | succ n ih =>
    obtain ⟨k, rfl⟩ : ∃ j, k = j + 1 := ⟨k - 1, by omega⟩
    rw [runFor] at h ⊢
    split at h
    · exact ih h (by omega)
    · exact h

/-- A machine that has come to its end leaves its registers, and a result is what it handed on to no
frame. -/
theorem end_of_next {res : Except Fault (last.Given tokens.size)} {σ : Registers}
    (h : M.next g tokens = .inr (res, σ)) :
    σ = M.registers ∧ ∀ x, res = .ok x → M = ⟨.give x, .nil, σ⟩ := by
  obtain ⟨control, K, σ'⟩ := M
  cases control with
  | apply p start =>
    cases p with
    | primitive | modified | observed | or | and | many => cases h
    | sequence key parts => cases parts <;> cases h
    | refer key rule owning =>
      simp only [next, apply] at h
      split at h
      · cases h; exact ⟨rfl, by rintro _ ⟨⟩⟩
      · cases h; exact ⟨rfl, by rintro _ ⟨⟩⟩
      · split at h <;> cases h
  | ask p => cases h
  | consult p =>
    cases p with
    | primitive | observed | or | and | many => cases h
    | modified key m part =>
      simp only [next, consult] at h
      split at h <;> cases h
    | sequence key parts => cases parts <;> cases h
    | refer key rule owning =>
      simp only [next, consult] at h
      split at h <;> cases h
      exact ⟨rfl, by rintro _ ⟨⟩⟩
  | give x =>
    cases K with
    | nil =>
      rw [next] at h
      cases h
      refine ⟨rfl, ?_⟩
      rintro _ ⟨⟩
      rfl
    | cons frame rest =>
      rw [next_give] at h
      cases h

/-- A machine that has come to its end leaves its registers. -/
theorem registers_of_next {res : Except Fault (last.Given tokens.size)} {σ : Registers}
    (h : M.next g tokens = .inr (res, σ)) : σ = M.registers := (end_of_next h).1

/-- A machine at its end takes no step. -/
theorem eq_of_end {r : Except Fault (last.Given tokens.size) × Registers}
    (hr : N.next g tokens = .inr r) (h : N.Steps g tokens N') : N = N' := by
  rcases h.cases_head with heq | ⟨N₁, hstep, -⟩
  · exact heq
  · rw [hr] at hstep
    cases hstep

/-- Whatever a machine comes to, it comes to its end from there. -/
theorem steps_end {r : Except Fault (last.Given tokens.size) × Registers}
    (h : M.Steps g tokens N) (hr : N.next g tokens = .inr r) (h' : M.Steps g tokens M') :
    M'.Steps g tokens N := by
  have hfun : Relator.RightUnique fun M M' : Machine τ tokens.size last =>
      M.next g tokens = .inl M' :=
    fun _ _ _ h₁ h₂ => Sum.inl.inj (h₁.symm.trans h₂)
  rcases Relation.ReflTransGen.total_of_right_unique hfun h h' with hle | hle
  · rw [eq_of_end hr hle]
  · exact hle

/-- A machine has one end. -/
theorem end_unique {r r' : Except Fault (last.Given tokens.size) × Registers}
    (h : M.Steps g tokens N) (h' : M.Steps g tokens N')
    (hr : N.next g tokens = .inr r) (hr' : N'.next g tokens = .inr r') : r = r' := by
  rw [← eq_of_end hr' (steps_end h hr h')] at hr
  exact Sum.inr.inj (hr.symm.trans hr')

end Machine

end GuardedParsing
