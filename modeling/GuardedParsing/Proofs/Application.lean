import GuardedParsing.Evaluation

/-!
# Applying a parser, rule by rule

The evaluation of a parser as a relation, with one rule for each way in which a node comes to its
result. The relation says nothing about how an evaluation is carried out or why it ends; what it
says of a node is all that the node can do, so that a fact about all parses is an induction over
the rules.

* `applies_evaluate`, `applies_parse`: evaluating a parser is one of the ways of applying it, and so
  is a parse. Since `evaluate` gives a result for every parser, every application has one.
-/

namespace GuardedParsing

/-- A list with an item before the items of another. -/
def Value.prepend (v w : Value) : Value := .list (v :: w.items)

/-- The outcome of applying a parser to some tokens, or the fault that broke it off. -/
abbrev Result {τ : Type} (tokens : Array τ) : Type :=
  Except Fault (Outcome (Fin (tokens.size + 1)) Value)

variable {τ : Type} [Token τ]

/-- Has the node to go on after this result of its first part? -/
def Result.IsSuccess {tokens : Array τ} (res : Result tokens) : Prop :=
  ∃ v next, res = .ok (.success v next)

/-- Is it a failure that another parser may recover from? -/
def Result.IsRecoverable {tokens : Array τ} (res : Result tokens) : Prop :=
  ∃ out, res = .ok out ∧ out.isRecoverable = true

open GuardedParsing.Parser in
/-- `Applies g tokens active p start a res a'`: the parser `p`, applied at `start` while the
activations of `active` are going on, gives `res`, and the account `a` becomes `a'`. -/
inductive Applies (g : Grammar τ) (tokens : Array τ) : Guard → Parser τ → Fin (tokens.size + 1) →
    Account → Result tokens → Account → Prop
  | primitive {active key leaf start a} :
      Applies g tokens active (primitive key leaf) start a (.ok (leaf.apply tokens start)) a
  | modified {active key m part start a res a'} (hpart : Applies g tokens active part start a res a') :
      Applies g tokens active (modified key m part) start a (res.map (m.settle start)) a'
  -- the record of an observation is closed only by an outcome, not by a fault
  | observed {active key name part start a out a'}
      (hpart : Applies g tokens active part start (a.note (.observed key name start)) (.ok out) a') :
      Applies g tokens active (observed key name part) start a (.ok out)
        (a'.note (.ofOutcome key name out))
  | observedFault {active key name part start a fault a'}
      (hpart : Applies g tokens active part start (a.note (.observed key name start)) (.error fault) a') :
      Applies g tokens active (observed key name part) start a (.error fault) a'
  -- the second alternative is tried after a failure that is not fatal, and never otherwise
  | orFirst {active key p q start a res a'} (hp : Applies g tokens active p start a res a')
      (hres : ¬res.IsRecoverable) : Applies g tokens active (or key p q) start a res a'
  | orSecond {active key p q start a out a' res a''}
      (hp : Applies g tokens active p start a (.ok out) a') (hout : out.isRecoverable = true)
      (hq : Applies g tokens active q start a' res a'') :
      Applies g tokens active (or key p q) start a (res.map out.orElse) a''
  | andFirst {active key p q start a res a'} (hp : Applies g tokens active p start a res a')
      (hres : ¬res.IsSuccess) : Applies g tokens active (and key p q) start a res a'
  | andSecond {active key p q start a v next a' res a''}
      (hp : Applies g tokens active p start a (.ok (.success v next)) a')
      (hq : Applies g tokens active q next a' res a'') :
      Applies g tokens active (and key p q) start a (res.map (·.map (.pair v))) a''
  -- the rest of a sequence is applied as the sequence of what is left
  | sequenceNil {active key start a} :
      Applies g tokens active (sequence key []) start a (.ok (.success (.list []) start)) a
  | sequenceFirst {active key p ps start a res a'} (hp : Applies g tokens active p start a res a')
      (hres : ¬res.IsSuccess) : Applies g tokens active (sequence key (p :: ps)) start a res a'
  | sequenceNext {active key p ps start a v next a' res a''}
      (hp : Applies g tokens active p start a (.ok (.success v next)) a')
      (hps : Applies g tokens active (sequence key ps) next a' res a'') :
      Applies g tokens active (sequence key (p :: ps)) start a (res.map (·.map v.prepend)) a''
  -- a repetition goes on after a match that consumed a token, and with nothing else
  | manyFault {active key part start a fault a'}
      (hpart : Applies g tokens active part start a (.error fault) a') :
      Applies g tokens active (many key part) start a (.error fault) a'
  | manyFatal {active key part start a position e a'}
      (hpart : Applies g tokens active part start a (.ok (.failure position e)) a')
      (he : e.isFatal = true) :
      Applies g tokens active (many key part) start a (.ok (.failure position e)) a'
  | manyEnd {active key part start a position e a'}
      (hpart : Applies g tokens active part start a (.ok (.failure position e)) a')
      (he : e.isFatal = false) :
      Applies g tokens active (many key part) start a (.ok (.success (.list []) start)) a'
  | manyNext {active key part start a v next a' res a''}
      (hpart : Applies g tokens active part start a (.ok (.success v next)) a') (hlt : start < next)
      (hrest : Applies g tokens active (many key part) next a' res a'') :
      Applies g tokens active (many key part) start a (res.map (·.map v.prepend)) a''
  | manyStopped {active key part start a v next a'}
      (hpart : Applies g tokens active part start a (.ok (.success v next)) a')
      (hlt : ¬start < next) :
      Applies g tokens active (many key part) start a
        ((part.stopRepetition g start a').1.map fun _ => .success (.list [v]) next)
        (part.stopRepetition g start a').2
  -- a rule is entered where it is not active
  | unset {active key rule owning start a} (hb : g.binding rule = .unset) :
      Applies g tokens active (refer key rule owning) start a (.error (.unset (g.name rule))) a
  | released {active key rule owning start a} (hb : g.binding rule = .released) :
      Applies g tokens active (refer key rule owning) start a (.error .released) a
  | reentered {active key rule owning a definition} {start : Fin (tokens.size + 1)}
      (hb : g.binding rule = .bound definition) (hin : (⟨rule, start⟩ : Activation) ∈ active) :
      Applies g tokens active (refer key rule owning) start a
        (.ok (.failure start (.leftRecursion start (g.name rule))))
        (a.note (.reentered ⟨rule, start⟩ (g.name rule)))
  | entered {active key rule owning a definition out a'} {start : Fin (tokens.size + 1)}
      (hb : g.binding rule = .bound definition) (hin : (⟨rule, start⟩ : Activation) ∉ active)
      (hd : Applies g tokens (active.insert ⟨rule, start⟩) definition start
        (a.note (.entered ⟨rule, start⟩ (g.name rule))) (.ok out) a') :
      Applies g tokens active (refer key rule owning) start a (.ok out)
        (a'.note (.left ⟨rule, start⟩))
  | enteredFault {active key rule owning a definition fault a'} {start : Fin (tokens.size + 1)}
      (hb : g.binding rule = .bound definition) (hin : (⟨rule, start⟩ : Activation) ∉ active)
      (hd : Applies g tokens (active.insert ⟨rule, start⟩) definition start
        (a.note (.entered ⟨rule, start⟩ (g.name rule))) (.error fault) a') :
      Applies g tokens active (refer key rule owning) start a (.error fault) a'

/-- An event and what follows it. -/
theorem runFrom_record_bind {β : Type} (e : Event) (k : Unit → Evaluation β) (a : Account) :
    (record e >>= k).value.runFrom a = (k ()).value.runFrom (a.note e) := by
  rw [Trampoline.runFrom_bind]; rfl

theorem map_prepend {κ : Type} (v : Value) (out : Outcome κ (List Value)) :
    (out.map (v :: ·)).map .list = (out.map .list).map v.prepend := by
  cases out <;> rfl

section Evaluates

open GuardedParsing.Parser

variable (g : Grammar τ) (tokens : Array τ) (active : Guard)

/-- Evaluating the parser at `start` is applying it, whatever the account is. -/
def Evaluates (p : Parser τ) (start : Fin (tokens.size + 1)) : Prop :=
  ∀ a, Applies g tokens active p start a ((p.evaluate g tokens active start).value.runFrom a).1
    ((p.evaluate g tokens active start).value.runFrom a).2

/-- Evaluating the repetition of a part is applying the node that repeats it. -/
def EvaluatesMany (part : Parser τ) (start : Fin (tokens.size + 1)) : Prop :=
  ∀ key a, Applies g tokens active (many key part) start a
    (((part.iterate g tokens active start).value.runFrom a).1.map (·.map .list))
    ((part.iterate g tokens active start).value.runFrom a).2

/-- Evaluating parts in order is applying the sequence of them. -/
def EvaluatesInOrder (parts : List (Parser τ)) (start : Fin (tokens.size + 1)) : Prop :=
  ∀ key a, Applies g tokens active (sequence key parts) start a
    (((inOrder g tokens active parts start).value.runFrom a).1.map (·.map .list))
    ((inOrder g tokens active parts start).value.runFrom a).2

variable {g tokens active} {key : Key} {p q : Parser τ} {ps : List (Parser τ)} {rule : RuleId}
  {owning : Bool} {start : Fin (tokens.size + 1)}

theorem evaluates_modified {m : Modifier} (hp : Evaluates g tokens active p start) :
    Evaluates g tokens active (modified key m p) start := by
  intro a
  have h := hp a
  rw [evaluate, Trampoline.runFrom_bind, Trampoline.value_more]
  rcases hr : (p.evaluate g tokens active start).value.runFrom a with ⟨fault | out, a'⟩ <;>
    rw [hr] at h <;> exact .modified h

theorem evaluates_observed {name : String} (hp : Evaluates g tokens active p start) :
    Evaluates g tokens active (observed key name p) start := by
  intro a
  have h := hp (a.note (.observed key name start))
  rw [evaluate, runFrom_record_bind, Trampoline.runFrom_bind, Trampoline.value_more]
  rcases hr : (p.evaluate g tokens active start).value.runFrom
      (a.note (.observed key name start)) with ⟨fault | out, a'⟩ <;> rw [hr] at h
  · exact .observedFault h
  · exact .observed h

theorem evaluates_or (hp : Evaluates g tokens active p start)
    (hq : Evaluates g tokens active q start) : Evaluates g tokens active (or key p q) start := by
  intro a
  have hp := hp a
  rw [evaluate, Trampoline.runFrom_bind, Trampoline.value_more]
  rcases hr : (p.evaluate g tokens active start).value.runFrom a with ⟨fault | out, a'⟩ <;>
    rw [hr] at hp
  · exact .orFirst hp (by rintro ⟨out, ⟨⟩, -⟩)
  · by_cases hout : out.isRecoverable = true
    · have hq := hq a'
      simp only [hout, if_true, Trampoline.runFrom_bind, Trampoline.value_more]
      rcases hr' : (q.evaluate g tokens active start).value.runFrom a' with ⟨fault | out', a''⟩ <;>
        rw [hr'] at hq <;> exact .orSecond hp hout hq
    · simp only [hout]
      exact .orFirst hp (by simpa [Result.IsRecoverable] using hout)

theorem evaluates_and (hp : Evaluates g tokens active p start)
    (hq : ∀ next, Evaluates g tokens active q next) :
    Evaluates g tokens active (and key p q) start := by
  intro a
  have hp := hp a
  rw [evaluate, Trampoline.runFrom_bind, Trampoline.value_more]
  rcases hr : (p.evaluate g tokens active start).value.runFrom a with
    ⟨fault | ⟨v, next⟩ | ⟨position, e⟩, a'⟩ <;> rw [hr] at hp
  · exact .andFirst hp (by rintro ⟨v, next, ⟨⟩⟩)
  · have hq := hq next a'
    simp only [Trampoline.runFrom_bind, Trampoline.value_more]
    rcases hr' : (q.evaluate g tokens active next).value.runFrom a' with ⟨fault | out', a''⟩ <;>
      rw [hr'] at hq <;> exact .andSecond hp hq
  · exact .andFirst hp (by rintro ⟨v, next, ⟨⟩⟩)

theorem evaluates_sequence (hps : EvaluatesInOrder g tokens active ps start) :
    Evaluates g tokens active (sequence key ps) start := by
  intro a
  have h := hps key a
  rw [evaluate, Trampoline.runFrom_bind]
  rcases hr : (inOrder g tokens active ps start).value.runFrom a with ⟨fault | out, a'⟩ <;>
    rw [hr] at h <;> exact h

theorem evaluates_many (hp : EvaluatesMany g tokens active p start) :
    Evaluates g tokens active (many key p) start := by
  intro a
  have h := hp key a
  rw [evaluate, Trampoline.runFrom_bind]
  rcases hr : (p.iterate g tokens active start).value.runFrom a with ⟨fault | out, a'⟩ <;>
    rw [hr] at h <;> exact h

theorem evaluates_unset (hb : g.binding rule = .unset) :
    Evaluates g tokens active (refer key rule owning) start := by
  intro a
  rw [evaluate]
  split
  · exact .unset hb
  all_goals simp_all

theorem evaluates_released (hb : g.binding rule = .released) :
    Evaluates g tokens active (refer key rule owning) start := by
  intro a
  rw [evaluate]
  split
  · simp_all
  · exact .released hb
  · simp_all

/-- A defined rule, where its definition matters only if the rule is not active. -/
theorem evaluates_bound (hb : g.binding rule = .bound p)
    (hp : (⟨rule, start⟩ : Activation) ∉ active →
      Evaluates g tokens (active.insert ⟨rule, start⟩) p start) :
    Evaluates g tokens active (refer key rule owning) start := by
  intro a
  rw [evaluate]
  split
  · simp_all
  · simp_all
  · rename_i definition hb'
    obtain rfl : p = definition := Binding.bound.inj (hb.symm.trans hb')
    by_cases hin : (⟨rule, start⟩ : Activation) ∈ active
    · rw [dif_pos hin, runFrom_record_bind]
      exact .reentered hb hin
    · have h := hp hin (a.note (.entered ⟨rule, start⟩ (g.name rule)))
      rw [dif_neg hin, runFrom_record_bind, Trampoline.runFrom_bind, Trampoline.value_more]
      rcases hr : (p.evaluate g tokens (active.insert ⟨rule, start⟩) start).value.runFrom
          (a.note (.entered ⟨rule, start⟩ (g.name rule))) with ⟨fault | out, a'⟩ <;> rw [hr] at h
      · exact .enteredFault hb hin h
      · exact .entered hb hin h

theorem evaluatesMany (hp : Evaluates g tokens active p start)
    (hrest : ∀ next, start < next → EvaluatesMany g tokens active p next) :
    EvaluatesMany g tokens active p start := by
  intro key a
  have hp := hp a
  rw [iterate, Trampoline.runFrom_bind, Trampoline.value_more]
  rcases hr : (p.evaluate g tokens active start).value.runFrom a with
    ⟨fault | ⟨v, next⟩ | ⟨position, e⟩, a'⟩ <;> rw [hr] at hp
  · exact .manyFault hp
  · by_cases hlt : start < next
    · have hrest := hrest next hlt key a'
      simp only [hlt, dif_pos, Trampoline.runFrom_bind]
      rcases hr' : (p.iterate g tokens active next).value.runFrom a' with
        ⟨fault | out, a''⟩ <;> rw [hr'] at hrest
      · exact .manyNext hp hlt hrest
      · -- the items of a list are collected before they become a value
        have h : Applies g tokens active (many key p) start a
            (.ok ((out.map .list).map v.prepend)) a'' := .manyNext hp hlt hrest
        rw [← map_prepend] at h
        exact h
    · have h : Applies g tokens active (many key p) start a _ _ := .manyStopped hp hlt
      simp only [hlt, dif_neg, not_false_eq_true, Trampoline.runFrom_bind,
        Trampoline.value_perform, Effect.runFrom_ofFunction]
      rcases hr' : p.stopRepetition g start a' with ⟨fault | out, a''⟩ <;> rw [hr'] at h <;>
        exact h
  · by_cases he : e.isFatal = true
    · simp only [he, if_true]
      exact .manyFatal hp he
    · simp only [he]
      exact .manyEnd hp (by simpa using he)

theorem evaluatesInOrder_cons (hp : Evaluates g tokens active p start)
    (hps : ∀ next, EvaluatesInOrder g tokens active ps next) :
    EvaluatesInOrder g tokens active (p :: ps) start := by
  intro key a
  have hp := hp a
  rw [inOrder, Trampoline.runFrom_bind, Trampoline.value_more]
  rcases hr : (p.evaluate g tokens active start).value.runFrom a with
    ⟨fault | ⟨v, next⟩ | ⟨position, e⟩, a'⟩ <;> rw [hr] at hp
  · exact .sequenceFirst hp (by rintro ⟨v, next, ⟨⟩⟩)
  · have hps := hps next key a'
    simp only [Trampoline.runFrom_bind]
    rcases hr' : (inOrder g tokens active ps next).value.runFrom a' with
      ⟨fault | out, a''⟩ <;> rw [hr'] at hps
    · exact .sequenceNext hp hps
    · have h : Applies g tokens active (sequence key (p :: ps)) start a
          (.ok ((out.map .list).map v.prepend)) a'' := .sequenceNext hp hps
      rw [← map_prepend] at h
      exact h
  · exact .sequenceFirst hp (by rintro ⟨v, next, ⟨⟩⟩)

end Evaluates

/-- **Evaluating a parser is applying it.** -/
theorem applies_evaluate (g : Grammar τ) (tokens : Array τ) (active : Guard) (p : Parser τ)
    (start : Fin (tokens.size + 1)) (a : Account) :
    Applies g tokens active p start a ((p.evaluate g tokens active start).value.runFrom a).1
      ((p.evaluate g tokens active start).value.runFrom a).2 := by
  -- by induction on the calls of the evaluation, of which one makes another at most finitely deep
  refine Parser.evaluate.induct g tokens (fun active p start => Evaluates g tokens active p start)
    (fun active part start => EvaluatesMany g tokens active part start)
    (fun active parts start => EvaluatesInOrder g tokens active parts start)
    ?primitive ?modified ?observed ?or ?and ?sequence ?many ?unset ?released ?reentered ?entered
    ?iterate ?nil ?cons active p start a
  case primitive =>
    intro active start key leaf a
    rw [Parser.evaluate]
    exact .primitive
  case modified => exact fun _ _ _ _ _ hp => evaluates_modified hp
  case observed => exact fun _ _ _ _ _ hp => evaluates_observed hp
  case or => exact fun _ _ _ _ _ hp hq => evaluates_or hp hq
  case and => exact fun _ _ _ _ _ hp hq => evaluates_and hp hq
  case sequence => exact fun _ _ _ _ hps => evaluates_sequence hps
  case many => exact fun _ _ _ _ hp => evaluates_many hp
  case unset => exact fun _ _ _ _ _ hb => evaluates_unset hb
  case released => exact fun _ _ _ _ _ hb => evaluates_released hb
  case reentered =>
    intro _ _ _ _ _ _ hb _ hin
    exact evaluates_bound hb fun h => absurd hin h
  case entered =>
    intro _ _ _ _ _ _ hb _ _ hp
    exact evaluates_bound hb fun _ => hp
  case iterate => exact fun _ _ _ hp hrest => evaluatesMany hp hrest
  case nil =>
    intro active start key a
    rw [Parser.inOrder]
    exact .sequenceNil
  case cons => exact fun _ _ _ _ hp hps => evaluatesInOrder_cons hp hps

/-- A parse is an application while no activation is going on. -/
theorem applies_parse (g : Grammar τ) (p : Parser τ) (c : Cursor τ) (a : Account) :
    ∃ res, Applies g c.source.tokens ∅ p c.place a res (p.parse g c a).2 ∧
      (p.parse g c a).1 = res.map (·.mapPlace c.moveTo) := by
  have h := applies_evaluate g c.source.tokens ∅ p c.place a
  rw [← Trampoline.run_eq_value] at h
  exact ⟨_, h, rfl⟩

end GuardedParsing
