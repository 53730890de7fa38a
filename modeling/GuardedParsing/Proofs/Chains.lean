import GuardedParsing.Proofs.AtLeastOnce

/-!
# Chains of operands and operators

A separated list and the two kinds of operator chains read the same thing: an operand, and then steps
of an operator and an operand, each where the one before it stopped. They differ in what they make of
it.

* `ChainSteps`, `ChainEnds`: the steps that go on, and the ways in which they end. An operator without
  an operand after it is taken back.
* `Chain.foldLeft_eq`, `Chain.foldRight_eq`: what is made of the values of a chain is its fold to the
  left or to the right.
* `chains_exact`: **the three parsers match the same chains up to the same place, and else have the
  same failure**; the list has the operands in order, and the chains are the folds, for every
  interpretation of the operators.
* `separated_list_broken_off`: the way in which all three fall short of it. A step of no tokens is
  the last one, but to record it the repetition asks whether a step accepts empty input, and that may
  come to a released rule.
-/

namespace GuardedParsing

/-- What is read of a chain: the first operand, and the operators with the operands after them. -/
structure Chain where
  first : Value
  steps : List (Value × Value)

namespace Chain

variable (combine : Value → Value → Value → Value)

/-- The operands, in order. -/
def operands (c : Chain) : List Value := c.first :: c.steps.map Prod.snd

/-- The operators bind to the left: each has on its left what was made of the chain up to it. -/
def leftFold : Value → List (Value × Value) → Value
  | x, [] => x
  | x, (f, y) :: steps => leftFold (combine f x y) steps

/-- The operators bind to the right: each has on its right what is made of the chain from it on. -/
def rightFold : Value → List (Value × Value) → Value
  | x, [] => x
  | x, (f, y) :: steps => combine f x (rightFold y steps)

/-- The pair of values that a chain is given as, where `value` is the value of a step. -/
def toValue (value : Value × Value → Value) (c : Chain) : Value :=
  .pair c.first (.list (c.steps.map value))

/-- The value of a step as a pair. -/
def stepPair (s : Value × Value) : Value := .pair s.1 s.2

theorem prepended_eq (c : Chain) : Build.prepended (c.toValue Prod.snd) = .list c.operands := rfl

theorem foldLeft_eq (c : Chain) :
    Build.foldLeft combine (c.toValue stepPair) = leftFold combine c.first c.steps := by
  obtain ⟨x, steps⟩ := c
  induction steps generalizing x with
  | nil => rfl
  | cons s steps ih => exact ih (combine s.1 x s.2)

/-- The operands are moved on by one against the operators, so that each operator gets the operand
before it; the last operand is left over. -/
theorem foldRight_eq (c : Chain) :
    Build.foldRight combine (c.toValue stepPair) = rightFold combine c.first c.steps := by
  obtain ⟨x, steps⟩ := c
  induction steps generalizing x with
  | nil => rfl
  | cons s steps ih => exact congrArg (combine s.1 x) (ih s.2)

end Chain

variable {τ : Type} [Token τ]

section Reading

variable (g : Grammar τ) (tokens : Array τ) (active : Guard) (operand operator : Parser τ)

/-- A step of a chain: an operator, and an operand where it stopped. -/
inductive StepGives (start : Fin (tokens.size + 1)) (a : Account) :
    Except Fault (Outcome (Fin (tokens.size + 1)) (Value × Value)) × Account → Prop
  | operatorFaults {fault a'}
      (hop : operator.applied g tokens active start a = (.error fault, a')) :
      StepGives start a (.error fault, a')
  | operatorFails {place e a'}
      (hop : operator.applied g tokens active start a = (.ok (.failure place e), a')) :
      StepGives start a (.ok (.failure place e), a')
  | operatorMatches {f middle a'}
      (hop : operator.applied g tokens active start a = (.ok (.success f middle), a')) :
      StepGives start a ((operand.applied g tokens active middle a').1.map (·.map (Prod.mk f)),
        (operand.applied g tokens active middle a').2)

/-- `ChainSteps g tokens active operand operator start a steps last a'`: one after the other, the
steps match from `start` on and consume a token each. The last of them stops at `last`, and the
account `a` becomes `a'`. -/
inductive ChainSteps : Fin (tokens.size + 1) → Account → List (Value × Value) →
    Fin (tokens.size + 1) → Account → Prop
  | nil {start a} : ChainSteps start a [] start a
  | cons {start a s next a' steps last a''}
      (hstep : StepGives g tokens active operand operator start a (.ok (.success s next), a'))
      (hlt : start < next) (hrest : ChainSteps next a' steps last a'') :
      ChainSteps start a (s :: steps) last a''

/-- After steps that stopped at `last`, the chain ends: with steps to be added to it, with a failure
or with a fault. The flag says whether it stops at a step of no tokens. -/
inductive ChainEnds (last : Fin (tokens.size + 1)) (a : Account) :
    Bool → Except Fault (Outcome (Fin (tokens.size + 1)) (List (Value × Value))) → Prop
  /-- The operator fails, or the operand after it: nothing of them is consumed. -/
  | takenBack {place e a'}
      (hstep : StepGives g tokens active operand operator last a (.ok (.failure place e), a'))
      (he : e.isFatal = false) : ChainEnds last a false (.ok (.success [] last))
  /-- A step that consumes nothing is the last one. -/
  | stopped {s a'}
      (hstep : StepGives g tokens active operand operator last a (.ok (.success s last), a')) :
      ChainEnds last a true (.ok (.success [s] last))
  /-- A fatal failure is passed on. -/
  | fatal {place e a'}
      (hstep : StepGives g tokens active operand operator last a (.ok (.failure place e), a'))
      (he : e.isFatal = true) : ChainEnds last a false (.ok (.failure place e))
  | fault {fault a'}
      (hstep : StepGives g tokens active operand operator last a (.error fault, a')) :
      ChainEnds last a false (.error fault)

/-- What is read of a chain, and whether it stops at a step of no tokens. -/
inductive ChainGives (start : Fin (tokens.size + 1)) (a : Account) :
    Bool → Except Fault (Outcome (Fin (tokens.size + 1)) Chain) → Prop
  | operandFaults {fault a'}
      (hoperand : operand.applied g tokens active start a = (.error fault, a')) :
      ChainGives start a false (.error fault)
  | operandFails {place e a'}
      (hoperand : operand.applied g tokens active start a = (.ok (.failure place e), a')) :
      ChainGives start a false (.ok (.failure place e))
  | operandMatches {x next a' steps last a'' stopped rest}
      (hoperand : operand.applied g tokens active start a = (.ok (.success x next), a'))
      (hsteps : ChainSteps g tokens active operand operator next a' steps last a'')
      (hend : ChainEnds g tokens active operand operator last a'' stopped rest) :
      ChainGives start a stopped (rest.map (·.map fun added => ⟨x, steps ++ added⟩))

end Reading

variable {g : Grammar τ} {tokens : Array τ} {active : Guard} {operand operator part : Parser τ}
  {start next last : Fin (tokens.size + 1)} {a a' : Account}

section Existence

variable (g tokens active operand operator)

theorem exists_stepGives (start : Fin (tokens.size + 1)) (a : Account) :
    ∃ r, StepGives g tokens active operand operator start a r := by
  rcases h : operator.applied g tokens active start a with ⟨fault | ⟨f, middle⟩ | ⟨place, e⟩, a'⟩
  · exact ⟨_, .operatorFaults h⟩
  · exact ⟨_, .operatorMatches h⟩
  · exact ⟨_, .operatorFails h⟩

variable {g tokens active operand operator}

theorem StepGives.le {s : Value × Value}
    (h : StepGives g tokens active operand operator start a (.ok (.success s next), a')) :
    start ≤ next := by
  generalize hr : (Except.ok (Outcome.success s next), a') = r at h
  cases h with
  | operatorFaults | operatorFails => cases hr
  | @operatorMatches f middle a'' hop =>
    obtain ⟨x, hx⟩ := Outcome.exists_eq_success_of_map (congrArg Prod.fst hr).symm
    exact Fin.le_trans (le_of_applied hop) (le_of_applied (Prod.ext hx rfl))

variable (g tokens active operand operator)

/-- From every place on there is a run of steps and an end. -/
theorem exists_chainSteps (start : Fin (tokens.size + 1)) (a : Account) :
    ∃ steps last a' stopped rest,
      ChainSteps g tokens active operand operator start a steps last a' ∧
        ChainEnds g tokens active operand operator last a' stopped rest := by
  obtain ⟨⟨fault | ⟨s, next⟩ | ⟨place, e⟩, a'⟩, hstep⟩ :=
    exists_stepGives g tokens active operand operator start a
  · exact ⟨_, _, _, _, _, .nil, .fault hstep⟩
  · rcases Fin.lt_or_eq_of_le hstep.le with hlt | rfl
    · obtain ⟨steps, last, a'', stopped, rest, hsteps, hend⟩ := exists_chainSteps next a'
      exact ⟨_, _, _, _, _, .cons hstep hlt hsteps, hend⟩
    · exact ⟨_, _, _, _, _, .nil, .stopped hstep⟩
  · rcases he : e.isFatal with _ | _
    · exact ⟨_, _, _, _, _, .nil, .takenBack hstep he⟩
    · exact ⟨_, _, _, _, _, .nil, .fatal hstep he⟩
termination_by tokens.size - start

theorem exists_chainGives (start : Fin (tokens.size + 1)) (a : Account) :
    ∃ stopped res, ChainGives g tokens active operand operator start a stopped res := by
  rcases h : operand.applied g tokens active start a with ⟨fault | ⟨x, next⟩ | ⟨place, e⟩, a'⟩
  · exact ⟨_, _, .operandFaults h⟩
  · obtain ⟨steps, last, a'', stopped, rest, hsteps, hend⟩ :=
      exists_chainSteps g tokens active operand operator next a'
    exact ⟨_, _, .operandMatches h hsteps hend⟩
  · exact ⟨_, _, .operandFails h⟩

end Existence

section Links

/-- The parser reads a step, and has `value` of it as its value. -/
def Links (g : Grammar τ) (tokens : Array τ) (active : Guard) (operand operator part : Parser τ)
    (value : Value × Value → Value) : Prop :=
  ∀ start a r, StepGives g tokens active operand operator start a r →
    part.applied g tokens active start a = (r.1.map (·.map value), r.2)

variable {key key' : Key} {value : Value × Value → Value} {stopped : Bool}
  {steps : List (Value × Value)}
  {rest : Except Fault (Outcome (Fin (tokens.size + 1)) (List (Value × Value)))}
  {res : Except Fault (Outcome (Fin (tokens.size + 1)) Chain)}

/-- An operator and an operand in order read a step. -/
theorem links_and :
    Links g tokens active operand operator (.and key operator operand) Chain.stepPair := by
  intro start a r h
  cases h with
  | operatorFaults hop =>
    have hnot : ¬(operator.applied g tokens active start a).1.IsSuccess := by
      rw [hop]
      exact Result.not_isSuccess_error
    rw [applied_and_of_not_isSuccess hnot, hop]
    rfl
  | operatorFails hop =>
    have hnot : ¬(operator.applied g tokens active start a).1.IsSuccess := by
      rw [hop]
      exact Result.not_isSuccess_failure
    rw [applied_and_of_not_isSuccess hnot, hop]
    rfl
  | @operatorMatches f middle a' hop =>
    rw [applied_and_of_success hop]
    rcases operand.applied g tokens active middle a' with ⟨fault | ⟨x, next⟩ | ⟨place, e⟩, a''⟩ <;>
      rfl

/-- A function of the value of a step. -/
theorem Links.map (h : Links g tokens active operand operator part value) (f : Value → Value) :
    Links g tokens active operand operator (.modified key (.map f) part) fun s => f (value s) := by
  intro start a r hstep
  rw [applied_modified, h start a r hstep]
  rcases r with ⟨fault | ⟨s, next⟩ | ⟨place, e⟩, a'⟩ <;> rfl

/-- A repetition of steps that ends at once. -/
theorem Links.many_of_ends (h : Links g tokens active operand operator part value)
    (hend : ChainEnds g tokens active operand operator last a stopped rest) :
    Result.UnlessLost (stopped = true ∧ ¬g.Unreleased part)
      (rest.map (·.map fun added => .list (added.map value)))
      ((Parser.many key part).applied g tokens active last a).1 := by
  cases hend with
  | takenBack hstep he =>
    rw [applied_many_of_failure (h _ _ _ hstep), if_neg (by simp [he])]
    exact .inl rfl
  | stopped hstep => exact (many_of_zero_width key (h _ _ _ hstep)).imp fun hlost => ⟨rfl, hlost⟩
  | fatal hstep he =>
    rw [applied_many_of_failure (h _ _ _ hstep), if_pos he]
    exact .inl rfl
  | fault hstep =>
    rw [applied_many_of_fault (h _ _ _ hstep)]
    exact .inl rfl

/-- **A repetition of steps has their values in order.** -/
theorem Links.many (h : Links g tokens active operand operator part value) (key : Key)
    (hsteps : ChainSteps g tokens active operand operator start a steps last a')
    (hend : ChainEnds g tokens active operand operator last a' stopped rest) :
    Result.UnlessLost (stopped = true ∧ ¬g.Unreleased part)
      (rest.map (·.map fun added => .list ((steps ++ added).map value)))
      ((Parser.many key part).applied g tokens active start a).1 := by
  induction hsteps with
  | nil => exact h.many_of_ends hend
  | @cons _ _ s _ _ _ _ _ hstep hlt _ ih =>
    rw [applied_many_of_lt (h _ _ _ hstep) hlt]
    have hrest := (ih hend).map (·.map (value s).prepend)
    rcases rest with fault | ⟨added, next⟩ | ⟨place, e⟩ <;> exact hrest

/-- An operand and a repetition of steps read a chain. -/
theorem Links.chain (h : Links g tokens active operand operator part value) {key'' : Key}
    {f : Value → Value} {made : Chain → Value} (hf : ∀ c, f (c.toValue value) = made c)
    (hres : ChainGives g tokens active operand operator start a stopped res) :
    Result.UnlessLost (stopped = true ∧ ¬g.Unreleased part) (res.map (·.map made))
      ((Parser.modified key (.map f) (.and key' operand (.many key'' part))).applied
        g tokens active start a).1 := by
  cases hres with
  | operandFaults hoperand =>
    have hnot : ¬(operand.applied g tokens active start a).1.IsSuccess := by
      rw [hoperand]
      exact Result.not_isSuccess_error
    rw [applied_map_and_of_not_isSuccess hnot, hoperand]
    exact .inl rfl
  | operandFails hoperand =>
    have hnot : ¬(operand.applied g tokens active start a).1.IsSuccess := by
      rw [hoperand]
      exact Result.not_isSuccess_failure
    rw [applied_map_and_of_not_isSuccess hnot, hoperand]
    exact .inl rfl
  | @operandMatches x _ _ steps _ _ _ rest hoperand hsteps hend =>
    rw [applied_map_and_of_success hoperand]
    have hrest := (h.many key'' hsteps hend).map (·.map fun w => f (.pair x w))
    obtain rfl : made = fun c => f (c.toValue value) := funext fun c => (hf c).symm
    rcases rest with fault | ⟨added, next⟩ | ⟨place, e⟩ <;> exact hrest

end Links

/-- **A separated list and the two kinds of operator chains read the same chain.** They match up to
the end of its last operand, and fail and fault as it does, whatever the operators do to the values.
The list has the operands in order, and the operators of the other two bind to the left and to the
right. A chain that stops at a step of no tokens may be lost to a released rule, if the operand or
the operator reaches one. -/
theorem chains_exact (combine : Value → Value → Value → Value) (operand operator : Parser τ)
    (d d' d'' : Draft τ) :
    ∃ list left right e e' e'',
      (Build.sepBy1 operand operator).runFrom d = (.ok list, e) ∧
      (Build.chainLeft1 combine operand operator).runFrom d' = (.ok left, e') ∧
      (Build.chainRight1 combine operand operator).runFrom d'' = (.ok right, e'') ∧
      ∀ (g : Grammar τ) (tokens : Array τ) (active : Guard) (start : Fin (tokens.size + 1))
        (a : Account),
        ∃ stopped res, ChainGives g tokens active operand operator start a stopped res ∧
          Result.UnlessLost (stopped = true ∧ ¬(g.Unreleased operand ∧ g.Unreleased operator))
            (res.map (·.map fun c => .list c.operands)) (list.applied g tokens active start a).1 ∧
          Result.UnlessLost (stopped = true ∧ ¬(g.Unreleased operand ∧ g.Unreleased operator))
            (res.map (·.map fun c => Chain.leftFold combine c.first c.steps))
            (left.applied g tokens active start a).1 ∧
          Result.UnlessLost (stopped = true ∧ ¬(g.Unreleased operand ∧ g.Unreleased operator))
            (res.map (·.map fun c => Chain.rightFold combine c.first c.steps))
            (right.applied g tokens active start a).1 := by
  refine ⟨_, _, _, _, _, _, rfl, rfl, rfl, fun g tokens active start a => ?_⟩
  obtain ⟨stopped, res, hres⟩ := exists_chainGives g tokens active operand operator start a
  -- what reads a step reaches no released rule if neither the operand nor the operator does
  have hlost : ∀ {key : Key}, ¬g.Unreleased (.and key operator operand) →
      ¬(g.Unreleased operand ∧ g.Unreleased operator) :=
    fun h hun => h (Grammar.only_and.2 hun.symm)
  refine ⟨stopped, res, hres, ?list, ?left, ?right⟩
  case list =>
    refine ((links_and.map Value.second).chain Chain.prepended_eq hres).imp ?_
    exact And.imp_right fun h => hlost (mt Grammar.only_modified.2 h)
  case left => exact (links_and.chain (Chain.foldLeft_eq combine) hres).imp (And.imp_right hlost)
  case right => exact (links_and.chain (Chain.foldRight_eq combine) hres).imp (And.imp_right hlost)

namespace Interruption

/-- An operand that matches nothing. -/
def emptyOperand : Parser Char := .primitive 6 (.pure (.int 1))

/-- The operator and the operand match nothing, in a row. -/
theorem stepGives_lostBranch :
    StepGives lostRule #[] ∅ emptyOperand lostBranch 0 {} (.ok (.success (.unit, .int 1) 0), {}) := by
  have hoperator : lostBranch.applied lostRule #[] ∅ 0 {} = (.ok (.success .unit 0), {}) := by
    cbv
  have hoperand : emptyOperand.applied lostRule #[] ∅ 0 {} = (.ok (.success (.int 1) 0), {}) := by
    cbv
  have hstep : StepGives lostRule #[] ∅ emptyOperand lostBranch 0 {} _ := .operatorMatches hoperator
  rw [hoperand] at hstep
  exact hstep

/-- The question about a step of the list comes to the rule. -/
theorem acceptsEmpty_lostStep :
    ((Parser.modified 8 (.map .second) (.and 7 lostBranch emptyOperand)).acceptsEmpty
      lostRule {}).1 = .error .released := by
  have hnone : ∀ key : Key, ({} : Memory).answers[key]? = none := by simp
  obtain ⟨m', hbranch⟩ : ∃ m', Answers lostRule ((Opened.empty.push 8).push 7) (.ask lostBranch) {}
      (.error .released) m' := answers_lostBranch rfl rfl rfl
  exact (answers_ask _ _ _).unique (.askedFault (hnone 8) rfl (.modified rfl
    (.askedFault (hnone 7) rfl (.andFirst hbranch (by simp)))))

end Interruption

open Interruption in
/-- **A separated list may be broken off after its operands matched.** On empty input an operand, a
separator and an operand match nothing, but the list ends in the fault of a released rule. -/
theorem separated_list_broken_off :
    ∃ list e, (Build.sepBy1 emptyOperand lostBranch).runFrom ⟨lostRule, 7, []⟩ = (.ok list, e) ∧
      ChainGives lostRule #[] ∅ emptyOperand lostBranch 0 {} true
        (.ok (.success ⟨.int 1, [(.unit, .int 1)]⟩ 0)) ∧
      (list.applied lostRule #[] ∅ 0 {}).1 = .error .released := by
  have hoperand : emptyOperand.applied lostRule #[] ∅ 0 {} = (.ok (.success (.int 1) 0), {}) := by
    cbv
  have hstep := stepGives_lostBranch
  refine ⟨_, _, rfl, .operandMatches hoperand .nil (.stopped hstep), ?_⟩
  -- the list is lost where its repetition stops
  have hask : Parser.acceptsEmpty lostRule _ {} = (.error .released, _) :=
    Prod.ext acceptsEmpty_lostStep rfl
  rw [applied_map_and_of_success hoperand, applied_many_of_not_lt ((links_and.map _) _ _ _ hstep)
    (Fin.lt_irrefl 0), Parser.stopRepetition, hask]
  rfl

end GuardedParsing
