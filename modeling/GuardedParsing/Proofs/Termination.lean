import GuardedParsing.Proofs.Machine
import GuardedParsing.Proofs.Query

/-!
# Every parse ends

The machine for parsing comes to the end of whatever it begins. It follows the rules of
`Answers` and `Applies`, one piece of work after the other, and leaves its set of activations and
its index of the parsers being asked about as it found them.

* `Answers.gives`, `Applies.gives`: the machine comes to the result of a question, and of an
  application, whatever it has to do with it afterwards.
* `parse_ends`: **the machine ends, for every grammar, parser and cursor, with the outcome of the
  parse or with its fault.**
* `acceptsEmpty_ends`: so it does for a question.
-/

namespace GuardedParsing

/-- The registers for an account, while the activations of `active` are going on. -/
def Registers.of (active : Finset Activation) (a : Account) : Registers where
  answers := a.memory.answers
  inProgress := a.memory.opened.depthOf?
  depth := a.memory.opened.size
  assumed := a.memory.assumed
  active
  events := a.events

/-- The activations of a guard, as a finite set. -/
def Guard.toFinset (active : Guard) : Finset Activation := active.toList.toFinset

theorem Guard.mem_toFinset {active : Guard} {x : Activation} : x ∈ active.toFinset ↔ x ∈ active := by
  simp [toFinset]

/-- The memory while the parsers of `opened` are being asked about. -/
def Memory.under (opened : Opened) (m : Memory) : Memory := { m with opened }

/-- One more parser that is being asked about has one more depth. -/
theorem Opened.depthOf?_push (o : Opened) (key : Key) :
    (o.push key).depthOf? = Function.update o.depthOf? key (some (o.size + 1)) := by
  funext k
  rw [depthOf?_eq, keys_push, depthIn?, Function.update_apply, depthOf?_eq, o.size_eq]
  by_cases h : key = k
  · rw [if_pos h, if_pos h.symm]
  · rw [if_neg h, if_neg (Ne.symm h)]

theorem Opened.depthOf?_push_of_ne {o : Opened} {key k : Key} (h : k ≠ key) :
    (o.push key).depthOf? k = o.depthOf? k := by
  rw [depthOf?_push, Function.update_of_ne h]

namespace Registers

variable {τ : Type} {active : Finset Activation} {m : Memory} {opened : Opened} {key : Key}
  {events : Array Event}

theorem answer?_of (p : Parser τ) :
    (of active ⟨m.under opened, events⟩).answer? p = m.answer? p := rfl

theorem inProgress_of :
    (of active ⟨m.under opened, events⟩).inProgress key = opened.depthOf? key := rfl

/-- Opening a question. -/
theorem openQuestion_of :
    (of active ⟨m.under opened, events⟩).openQuestion key =
      of active ⟨m.suspend.2.under (opened.push key), events⟩ := by
  unfold openQuestion of
  rw [Memory.under, Memory.under, Opened.depthOf?_push]
  rfl

/-- Closing a question leaves the index as it was before the question was opened. -/
theorem closeQuestion_of (h : opened.depthOf? key = none) (outer : Option Nat) (empty : Bool) :
    (of active ⟨m.under (opened.push key), events⟩).closeQuestion key (opened.size + 1) outer empty =
      of active ⟨(m.settle key (opened.size + 1) outer empty).under opened, events⟩ := by
  have hindex : Function.update (opened.push key).depthOf? key none = opened.depthOf? := by
    rw [Opened.depthOf?_push, Function.update_idem, ← h, Function.update_eq_self]
  unfold closeQuestion of
  simp only [Memory.under, hindex]
  rfl

/-- Leaving a rule leaves the activations as they were before the rule was entered. -/
theorem leave_enter {x : Activation} (h : x ∉ active) (a : Account) :
    (of (insert x active) a).leave x = of active a := by
  unfold leave of
  simp only [Finset.erase_insert h]

end Registers

variable {τ : Type} [Token τ] {g : Grammar τ} {tokens : Array τ} {last : Kind}

namespace Machine

/-- The machine comes to hand the result to the frames of `K`, with the registers `σ`, or a fault
puts an end to it, which leaves the account `a`. -/
def Gives (g : Grammar τ) (tokens : Array τ) (M : Machine τ tokens.size last) {k : Kind}
    (K : Stack τ tokens.size last k) (res : Except Fault (k.Given tokens.size)) (σ : Registers)
    (a : Account) : Prop :=
  match res with
  | .ok x => M.Steps g tokens ⟨.give x, K, σ⟩
  | .error fault => ∃ M' active, M.Steps g tokens M' ∧
      M'.next g tokens = .inr (.error fault, .of active a)

variable {M N : Machine τ tokens.size last} {k k' : Kind} {K : Stack τ tokens.size last k}
  {K' : Stack τ tokens.size last k'} {res : Except Fault (k.Given tokens.size)}
  {res' : Except Fault (k'.Given tokens.size)} {σ σ' : Registers} {a a' : Account}

theorem gives_now (x : k.Given tokens.size) :
    (⟨.give x, K, σ⟩ : Machine τ tokens.size last).Gives g tokens K (.ok x) σ a := .refl

theorem gives_answer {K : Stack τ tokens.size last .answer} (empty : Bool) :
    (answer empty K σ).Gives g tokens K (.ok empty) σ a := .refl

theorem gives_outcome {K : Stack τ tokens.size last .outcome}
    (out : Outcome (Fin (tokens.size + 1)) Value) :
    (outcome out K σ).Gives g tokens K (.ok out) σ a := .refl

theorem Gives.step (hstep : M.next g tokens = .inl N) (h : N.Gives g tokens K res σ a) :
    M.Gives g tokens K res σ a := by
  cases res with
  | ok x => exact .head hstep h
  | error fault =>
    obtain ⟨M', active, hM', hend⟩ := h
    exact ⟨M', active, .head hstep hM', hend⟩

/-- What a frame waits for comes to it. -/
theorem Gives.resume {frame : Frame τ tokens.size k k'} {x : k.Given tokens.size}
    (h : M.Gives g tokens (.cons frame K') (.ok x) σ a)
    (hframe : (resume frame x K' σ).Gives g tokens K' res' σ' a') :
    M.Gives g tokens K' res' σ' a' := by
  have hstep := Gives.step (next_give g x) hframe
  cases res' with
  | ok y => exact h.trans hstep
  | error fault =>
    obtain ⟨M', active, hM', hend⟩ := hstep
    exact ⟨M', active, h.trans hM', hend⟩

/-- A fault passes a frame by. -/
theorem Gives.pass {frame : Frame τ tokens.size k k'} {fault : Fault}
    (h : M.Gives g tokens (.cons frame K') (.error fault : Except Fault (k.Given tokens.size)) σ a) :
    M.Gives g tokens K' (.error fault : Except Fault (k'.Given tokens.size)) σ' a := h

/-- A frame that hands on what comes to it. -/
theorem Gives.handOn {frame : Frame τ tokens.size k k} {K' : Stack τ tokens.size last k}
    (h : M.Gives g tokens (.cons frame K') res σ a)
    (hframe : ∀ x, res = .ok x → Machine.resume frame x K' σ = ⟨.give x, K', σ⟩) :
    M.Gives g tokens K' res σ a := by
  cases res with
  | ok x =>
    refine h.resume ?_
    rw [hframe x rfl]
    exact gives_now x
  | error fault => exact h.pass

/-- A frame that only changes what comes to it. -/
theorem Gives.change {frame : Frame τ tokens.size k k'}
    {f : k.Given tokens.size → k'.Given tokens.size}
    (h : M.Gives g tokens (.cons frame K') res σ a)
    (hframe : ∀ x, Machine.resume frame x K' σ = ⟨.give (f x), K', σ'⟩) :
    M.Gives g tokens K' (res.map f) σ' a := by
  cases res with
  | ok x =>
    refine h.resume ?_
    rw [hframe x]
    exact gives_now (f x)
  | error fault => exact h.pass

end Machine

/-- The control of the machine at the beginning of a question. -/
def Question.control (n : Nat) : Question τ → Control τ n .answer
  | ask p => .ask p
  | consult p => .consult p

open Machine in
/-- **The machine answers every question.** -/
theorem Answers.gives {opened : Opened} {q : Question τ} {m m' : Memory} {res : Except Fault Bool}
    (h : Answers g opened q m res m') :
    ∀ (K : Stack τ tokens.size last .answer) (active : Finset Activation) (events : Array Event),
      (⟨q.control tokens.size, K, .of active ⟨m.under opened, events⟩⟩ : Machine _ _ _).Gives
        g tokens K res (.of active ⟨m'.under opened, events⟩) ⟨m', events⟩ := by
  induction h with
  -- the machine looks for an answer in the order of the rules
  | known h =>
    intro K active events
    refine .step ?_ (gives_answer _)
    simp only [Question.control, next, ask, Registers.answer?_of, h]
  | assumed h hd =>
    intro K active events
    refine .step (N := answer false K _) ?_ (gives_answer _)
    simp only [Question.control, next, ask, Registers.answer?_of, h, Registers.inProgress_of, hd]
    rfl
  | @asked opened p m b m' h hd _ ih =>
    intro K active events
    refine .step (N := ⟨.consult p, .cons (.settle p.key (opened.size + 1) m.assumed) K, _⟩) ?_
      ((ih _ active events).resume ?_)
    · simp only [Question.control, next, ask, Registers.answer?_of, h, Registers.inProgress_of, hd,
        Registers.openQuestion_of]
      rfl
    · rw [resume_settle, Registers.closeQuestion_of hd]
      exact gives_answer b
  | @askedFault opened p m fault m' h hd _ ih =>
    intro K active events
    refine .step (N := ⟨.consult p, .cons (.settle p.key (opened.size + 1) m.assumed) K, _⟩) ?_
      (ih _ active events).pass
    simp only [Question.control, next, ask, Registers.answer?_of, h, Registers.inProgress_of, hd,
      Registers.openQuestion_of]
    rfl
  | @plain opened p m b h =>
    intro K active events
    refine .step (N := answer b K _) ?_ (gives_answer b)
    cases p <;> simp_all [Question.control, next, consult, Parser.acceptsEmpty?]
  | modified hmod _ ih =>
    intro K active events
    refine .step ?_ (ih K active events)
    simp only [Question.control, next, consult, hmod]
  | observed _ ih => exact fun K active events => .step rfl (ih K active events)
  -- the second part is asked only where the answer for the first one leaves it open
  | @orFirst _ _ _ q _ res _ _ hres ih =>
    intro K active events
    refine .step rfl ((ih (.cons (.orAsk q) K) active events).handOn ?_)
    rintro (_ | _) rfl
    · exact absurd rfl hres
    · rfl
  | orSecond _ _ ihp ihq =>
    intro K active events
    exact .step rfl ((ihp (.cons (.orAsk _) K) active events).resume (ihq K active events))
  | @andFirst _ _ _ q _ res _ _ hres ih =>
    intro K active events
    refine .step rfl ((ih (.cons (.andAsk q) K) active events).handOn ?_)
    rintro (_ | _) rfl
    · rfl
    · exact absurd rfl hres
  | andSecond _ _ ihp ihq =>
    intro K active events
    exact .step rfl ((ihp (.cons (.andAsk _) K) active events).resume (ihq K active events))
  | sequenceNil => exact fun K active events => .step rfl (gives_answer true)
  | @sequenceFirst _ key _ ps _ res _ _ hres ih =>
    intro K active events
    refine .step rfl ((ih (.cons (.askAll key ps) K) active events).handOn ?_)
    rintro (_ | _) rfl
    · rfl
    · exact absurd rfl hres
  | @sequenceNext _ key _ ps _ _ _ _ _ _ ihp ihps =>
    intro K active events
    exact .step rfl ((ihp (.cons (.askAll key ps) K) active events).resume (ihps K active events))
  | bound hb _ ih =>
    intro K active events
    refine .step ?_ (ih K active events)
    simp only [Question.control, next, consult, hb]
  | unset hb =>
    intro K active events
    refine .step (N := answer false K _) ?_ (gives_answer false)
    simp only [Question.control, next, consult, hb]
    rfl
  -- a fault leaves the index as it is at that moment
  | released hb =>
    intro K active events
    refine ⟨_, active, .refl, ?_⟩
    simp only [Question.control, next, consult, hb]
    rfl

open Machine in
/-- The machine asks whether the part of a repetition accepts empty input, and records the stop. -/
theorem stopRepetition_gives (part : Parser τ) (start next : Fin (tokens.size + 1)) (v : Value)
    (a : Account) (K : Stack τ tokens.size last .outcome) (active : Finset Activation) :
    (⟨.ask part, .cons (.stop part.key start next v) K, .of active a⟩ : Machine _ _ _).Gives
      g tokens K ((part.stopRepetition g start a).1.map fun _ => .success (.list [v]) next)
      (.of active (part.stopRepetition g start a).2) (part.stopRepetition g start a).2 := by
  have h := answers_ask g part a.memory
  rw [Parser.stopRepetition]
  rcases hr : part.acceptsEmpty g a.memory with ⟨fault | b, m'⟩ <;> rw [hr] at h
  · exact (h.gives (.cons (.stop part.key start next v) K) active a.events).pass
  · have hm : m'.under a.memory.opened = m' := by rw [← h.opened_eq b rfl]; rfl
    refine (h.gives (.cons (.stop part.key start next v) K) active a.events).resume ?_
    rw [hm]
    exact gives_outcome _

open Machine in
/-- **The machine comes to the end of every application**, and the activations that are going on are
then the same as before. -/
theorem Applies.gives {guard : Guard} {p : Parser τ} {start : Fin (tokens.size + 1)}
    {a a' : Account} {res : Result tokens} (h : Applies g tokens guard p start a res a') :
    ∀ (K : Stack τ tokens.size last .outcome) (active : Finset Activation),
      (∀ x, x ∈ active ↔ x ∈ guard) →
      (⟨.apply p start, K, .of active a⟩ : Machine _ _ _).Gives g tokens K res (.of active a') a' := by
  induction h with
  | primitive => exact fun K active _ => .step rfl (gives_outcome _)
  | @modified _ _ m _ start _ _ _ _ ih =>
    intro K active hactive
    exact .step rfl ((ih (.cons (.modify m start) K) active hactive).change fun _ => rfl)
  | @observed _ key name _ _ _ out _ _ ih =>
    intro K active hactive
    exact .step rfl ((ih (.cons (.observe key name) K) active hactive).resume (gives_outcome out))
  | @observedFault _ key name _ _ _ _ _ _ ih =>
    intro K active hactive
    exact .step rfl (ih (.cons (.observe key name) K) active hactive).pass
  | @orFirst _ _ _ q start _ res _ _ hres ih =>
    intro K active hactive
    refine .step rfl ((ih (.cons (.orElse q start) K) active hactive).handOn ?_)
    rintro out rfl
    have hout : out.isRecoverable ≠ true := fun h => hres ⟨out, rfl, h⟩
    rw [resume_orElse, if_neg hout]
  | @orSecond _ _ _ q start _ out _ _ _ _ hout _ ihp ihq =>
    intro K active hactive
    refine .step rfl ((ihp (.cons (.orElse q start) K) active hactive).resume ?_)
    rw [resume_orElse, if_pos hout]
    exact (ihq (.cons (.merge out) K) active hactive).change fun _ => rfl
  | @andFirst _ _ _ q _ _ res _ _ hres ih =>
    intro K active hactive
    refine .step rfl ((ih (.cons (.andThen q) K) active hactive).handOn ?_)
    rintro (⟨v, next⟩ | ⟨position, e⟩) rfl
    · exact absurd ⟨v, next, rfl⟩ hres
    · rfl
  | @andSecond _ _ _ q _ _ v _ _ _ _ _ _ ihp ihq =>
    intro K active hactive
    refine .step rfl ((ihp (.cons (.andThen q) K) active hactive).resume ?_)
    exact (ihq (.cons (.pair v) K) active hactive).change fun _ => rfl
  | sequenceNil => exact fun K active _ => .step rfl (gives_outcome _)
  | @sequenceFirst _ key _ ps _ _ res _ _ hres ih =>
    intro K active hactive
    refine .step rfl ((ih (.cons (.inOrder key ps) K) active hactive).handOn ?_)
    rintro (⟨v, next⟩ | ⟨position, e⟩) rfl
    · exact absurd ⟨v, next, rfl⟩ hres
    · rfl
  | @sequenceNext _ key _ ps _ _ v _ _ _ _ _ _ ihp ihps =>
    intro K active hactive
    refine .step rfl ((ihp (.cons (.inOrder key ps) K) active hactive).resume ?_)
    exact (ihps (.cons (.prepend v) K) active hactive).change fun _ => rfl
  -- whatever the part of a repetition gives comes to one and the same frame
  | @manyFault _ key part start _ _ _ _ ih =>
    intro K active hactive
    exact .step rfl (ih (.cons (.again key part start) K) active hactive).pass
  | @manyFatal _ key part start _ _ _ _ _ he ih =>
    intro K active hactive
    refine .step rfl ((ih (.cons (.again key part start) K) active hactive).resume ?_)
    rw [Machine.resume, if_pos he]
    exact gives_outcome _
  | @manyEnd _ key part start _ _ e _ _ he ih =>
    intro K active hactive
    have he' : e.isFatal ≠ true := by simp [he]
    refine .step rfl ((ih (.cons (.again key part start) K) active hactive).resume ?_)
    rw [Machine.resume, if_neg he']
    exact gives_outcome _
  | @manyNext _ key part start _ v _ _ _ _ _ hlt _ ihp ihrest =>
    intro K active hactive
    refine .step rfl ((ihp (.cons (.again key part start) K) active hactive).resume ?_)
    rw [Machine.resume, if_pos hlt]
    exact (ihrest (.cons (.prepend v) K) active hactive).change fun _ => rfl
  | @manyStopped _ key part start _ v next a' _ hlt ih =>
    intro K active hactive
    refine .step rfl ((ih (.cons (.again key part start) K) active hactive).resume ?_)
    rw [Machine.resume, if_neg hlt]
    exact stopRepetition_gives part start next v a' K active
  | unset hb =>
    intro K active _
    refine ⟨_, active, .refl, ?_⟩
    simp only [next, apply, hb]
  | released hb =>
    intro K active _
    refine ⟨_, active, .refl, ?_⟩
    simp only [next, apply, hb]
  -- the machine tests the set that it keeps where the rules speak of the guard
  | @reentered _ _ rule _ a d start hb hin =>
    intro K active hactive
    refine .step (N := outcome _ K _) ?_ (gives_outcome _)
    have hx := (hactive _).2 hin
    simp only [next, apply, hb]
    exact if_pos hx
  | @entered _ _ rule _ a d out a' start hb hin _ ih =>
    intro K active hactive
    have hx := mt (hactive _).1 hin
    refine .step (next_refer hb hx) ((ih _ (insert ⟨rule, start⟩ active) ?_).resume ?_)
    · intro x
      rw [Finset.mem_insert, Guard.mem_insert, hactive]
    · rw [resume_leave, Registers.leave_enter hx]
      exact gives_outcome out
  | @enteredFault _ _ rule _ a d fault a' start hb hin _ ih =>
    intro K active hactive
    have hx := mt (hactive _).1 hin
    refine .step (next_refer hb hx) (ih _ (insert ⟨rule, start⟩ active) fun x => ?_).pass
    rw [Finset.mem_insert, Guard.mem_insert, hactive]

/-- The machine at the beginning of a parse: no activation is going on. -/
def Machine.start (p : Parser τ) (c : Cursor τ) (a : Account) :
    Machine τ c.source.tokens.size .outcome :=
  ⟨.apply p c.place, .nil, .of ∅ a⟩

/-- **Every parse ends.** From some number of steps on, the machine has the outcome of the parse, or
the fault that puts an end to it; its registers are the account of the parse, and no activation is
left over from an outcome. -/
theorem parse_ends (g : Grammar τ) (p : Parser τ) (c : Cursor τ) (a : Account) :
    ∃ n result active,
      (∀ k ≥ n, (Machine.start p c a).runFor g c.source.tokens k =
        some (result, .of active (p.parse g c a).2)) ∧
      (p.parse g c a).1 = result.map (·.mapPlace c.moveTo) ∧
      (result.isOk = true → active = ∅) := by
  obtain ⟨res, happ, hres⟩ := applies_parse g p c a
  have h := happ.gives .nil ∅ (by simp)
  cases res with
  | error fault =>
    obtain ⟨M, active, hM, hend⟩ := h
    obtain ⟨n, hn⟩ := Machine.exists_runFor hM hend
    exact ⟨n, .error fault, active, fun k hk => Machine.runFor_mono hn hk, hres, by rintro ⟨⟩⟩
  | ok out =>
    obtain ⟨n, hn⟩ := Machine.exists_runFor h rfl
    exact ⟨n, .ok out, ∅, fun k hk => Machine.runFor_mono hn hk, hres, fun _ => rfl⟩

/-- The machine at the beginning of a question. -/
def Machine.question (p : Parser τ) (m : Memory) : Machine τ (#[] : Array τ).size .answer :=
  ⟨.ask p, .nil, .of ∅ { memory := m }⟩

/-- **Every question ends.** From some number of steps on, the machine has the answer, or the fault
that puts an end to the question; its registers are the memory that the question leaves. -/
theorem acceptsEmpty_ends (g : Grammar τ) (p : Parser τ) (m : Memory) :
    ∃ n active, ∀ k ≥ n, (Machine.question p m).runFor g #[] k =
      some ((p.acceptsEmpty g m).1, .of active { memory := (p.acceptsEmpty g m).2 }) := by
  have h := answers_ask g p m
  rcases hr : p.acceptsEmpty g m with ⟨fault | b, m'⟩ <;> rw [hr] at h
  · obtain ⟨M, active, hM, hend⟩ := h.gives .nil ∅ #[]
    obtain ⟨n, hn⟩ := Machine.exists_runFor hM hend
    exact ⟨n, active, fun k hk => Machine.runFor_mono hn hk⟩
  · have hm : m'.under m.opened = m' := by rw [← h.opened_eq b rfl]; rfl
    have hsteps : (Machine.question p m).Gives g #[] .nil (.ok b)
        (.of ∅ ⟨m'.under m.opened, #[]⟩) ⟨m', #[]⟩ := h.gives .nil ∅ #[]
    rw [hm] at hsteps
    obtain ⟨n, hn⟩ := Machine.exists_runFor hsteps rfl
    exact ⟨n, ∅, fun k hk => Machine.runFor_mono hn hk⟩

end GuardedParsing
