import GuardedParsing.Proofs.Meaning
import GuardedParsing.Proofs.Termination

/-!
# What breaks a parse off

A parse gives what its parser means, unless it is broken off before. Where a repetition stops at a
match of no tokens, it asks whether its part accepts empty input. The answer is only put on record,
but the question goes through branches that the parse does not apply, and a released rule in one of
them breaks the parse off.

* `Yields.realizes`: applying a parser gives what it yields, or the fault of the first question that
  is broken off.
* `Yields.parse_eq`: the same for a parse; `Yields.askAtStops_eq_ok`: no question is broken off where
  no released rule is reached.
* `parse_faults_iff`: **a parse ends in a fault iff it applies a rule with that fault**, or a
  question is broken off.
* `unapplied_rule_breaks_off`: a parse that applies no rule at all is broken off.
-/

namespace GuardedParsing

variable {τ : Type}

/-- The questions that are put where repetitions stop, in order, until one is broken off. -/
def Grammar.askAtStops (g : Grammar τ) : List (Encounter τ) → Memory → Except Fault Unit × Memory
  | [], m => (.ok (), m)
  | .rule _ :: es, m => g.askAtStops es m
  | .stop part :: es, m =>
    match part.acceptsEmpty g m with
    | (.ok _, m') => g.askAtStops es m'
    | (.error fault, m') => (.error fault, m')

section Asking

variable {g : Grammar τ} {es es' : List (Encounter τ)} {m m' : Memory} {fault : Fault}

theorem askAtStops_append (es es' : List (Encounter τ)) (m : Memory) :
    g.askAtStops (es ++ es') m =
      match g.askAtStops es m with
      | (.ok _, m') => g.askAtStops es' m'
      | (.error fault, m') => (.error fault, m') := by
  induction es generalizing m with
  | nil => rfl
  | cons e es ih =>
    cases e with
    | rule rule => exact ih m
    | stop part =>
      rw [List.cons_append, Grammar.askAtStops, Grammar.askAtStops]
      rcases part.acceptsEmpty g m with ⟨fault | b, m₁⟩
      · rfl
      · exact ih m₁

theorem askAtStops_append_of_ok (h : g.askAtStops es m = (.ok (), m')) :
    g.askAtStops (es ++ es') m = g.askAtStops es' m' := by
  rw [askAtStops_append, h]

theorem askAtStops_append_of_error (h : g.askAtStops es m = (.error fault, m')) :
    g.askAtStops (es ++ es') m = (.error fault, m') := by
  rw [askAtStops_append, h]

/-- Only a released rule breaks a question off, and the part that the question is about reaches it. -/
theorem exists_stop_of_askAtStops (h : (g.askAtStops es m).1 = .error fault) :
    fault = .released ∧ ∃ part, .stop part ∈ es ∧ ¬g.Unreleased part := by
  induction es generalizing m with
  | nil => cases h
  | cons e es ih =>
    have hrest : ∀ {m₁}, (g.askAtStops es m₁).1 = .error fault →
        fault = .released ∧ ∃ part, .stop part ∈ e :: es ∧ ¬g.Unreleased part := fun h =>
      (ih h).imp_right fun ⟨part, hpart, hun⟩ => ⟨part, .tail _ hpart, hun⟩
    cases e with
    | rule rule => exact hrest h
    | stop part =>
      have hans := answers_ask g part m
      rw [Grammar.askAtStops] at h
      rcases hr : part.acceptsEmpty g m with ⟨fault' | b, m₁⟩ <;> rw [hr] at h hans
      · cases h
        refine ⟨hans.eq_released _ rfl, part, .head _, fun hun => ?_⟩
        obtain ⟨b, hb⟩ := hans.exists_ok hun
        cases hb
      · exact hrest h

end Asking

variable [Token τ] {g : Grammar τ} {tokens : Array τ} {active : Guard} {p : Parser τ}
  {start : Fin (tokens.size + 1)} {es : List (Encounter τ)} {res : Result tokens}

omit [Token τ] in
theorem Result.not_isSuccess_error {fault : Fault} :
    ¬@Result.IsSuccess τ tokens (.error fault) := by
  rintro ⟨v, next, ⟨⟩⟩

omit [Token τ] in
theorem Result.not_isSuccess_failure {place : Fin (tokens.size + 1)} {e : ParseError} :
    ¬@Result.IsSuccess τ tokens (.ok (.failure place e)) := by
  rintro ⟨v, next, ⟨⟩⟩

omit [Token τ] in
theorem Result.not_isRecoverable_error {fault : Fault} :
    ¬@Result.IsRecoverable τ tokens (.error fault) := by
  rintro ⟨out, ⟨⟩, -⟩

/-- With the account `a`, the parser gives `res`, or the fault of the first of the questions at the
stops of `es` that is broken off. -/
inductive Realizes (g : Grammar τ) (tokens : Array τ) (active : Guard) (p : Parser τ)
    (start : Fin (tokens.size + 1)) (es : List (Encounter τ)) (res : Result tokens) (a : Account) :
    Prop
  | interrupted {fault : Fault} {a' : Account}
      (hask : g.askAtStops es a.memory = (.error fault, a'.memory))
      (happ : Applies g tokens active p start a (.error fault) a')
  | undisturbed {a' : Account} (hask : g.askAtStops es a.memory = (.ok (), a'.memory))
      (happ : Applies g tokens active p start a res a')

/-- What is applied first, and passed on by the node around it. -/
theorem Realizes.imp {q : Parser τ} {res' : Result tokens} {a : Account}
    (h : Realizes g tokens active p start es res a)
    (herror : ∀ fault a', Applies g tokens active p start a (.error fault) a' →
      Applies g tokens active q start a (.error fault) a')
    (hres : ∀ a', Applies g tokens active p start a res a' →
      Applies g tokens active q start a res' a') :
    Realizes g tokens active q start es res' a := by
  cases h with
  | interrupted hask happ => exact .interrupted hask (herror _ _ happ)
  | undisturbed hask happ => exact .undisturbed hask (hres _ happ)

/-- What is applied first, and then something else with what it gave. -/
theorem Realizes.andThen {q r : Parser τ} {next : Fin (tokens.size + 1)}
    {es' : List (Encounter τ)} {res' res'' : Result tokens} {a : Account}
    (h : Realizes g tokens active p start es res a)
    (h' : ∀ a', Realizes g tokens active q next es' res' a')
    (herror : ∀ fault a', Applies g tokens active p start a (.error fault) a' →
      Applies g tokens active r start a (.error fault) a')
    (herror' : ∀ fault a' a'', Applies g tokens active p start a res a' →
      Applies g tokens active q next a' (.error fault) a'' →
      Applies g tokens active r start a (.error fault) a'')
    (hres : ∀ a' a'', Applies g tokens active p start a res a' →
      Applies g tokens active q next a' res' a'' →
      Applies g tokens active r start a res'' a'') :
    Realizes g tokens active r start (es ++ es') res'' a := by
  cases h with
  | interrupted hask happ =>
    exact .interrupted (askAtStops_append_of_error hask) (herror _ _ happ)
  | @undisturbed a' hask happ =>
    cases h' a' with
    | interrupted hask' happ' =>
      exact .interrupted ((askAtStops_append_of_ok hask).trans hask') (herror' _ _ _ happ happ')
    | undisturbed hask' happ' =>
      exact .undisturbed ((askAtStops_append_of_ok hask).trans hask') (hres _ _ happ happ')

/-- **A parser gives what it yields**, or the fault of the first question that is broken off. -/
theorem Yields.realizes (h : Yields g tokens active p start es res) :
    ∀ a, Realizes g tokens active p start es res a := by
  induction h with
  | primitive => exact fun a => .undisturbed rfl .primitive
  | sequenceNil => exact fun a => .undisturbed rfl .sequenceNil
  | unset hb => exact fun a => .undisturbed rfl (.unset hb)
  | released hb => exact fun a => .undisturbed rfl (.released hb)
  | reentered hb hin =>
    intro a
    refine .undisturbed ?_ (.reentered hb hin)
    rfl
  | modified _ ih =>
    exact fun a => (ih a).imp (fun _ _ happ => .modified happ) fun _ happ => .modified happ
  | orFirst _ hres ih =>
    exact fun a => (ih a).imp (fun _ _ happ => .orFirst happ Result.not_isRecoverable_error)
      fun _ happ => .orFirst happ hres
  | andFirst _ hres ih =>
    exact fun a => (ih a).imp (fun _ _ happ => .andFirst happ Result.not_isSuccess_error)
      fun _ happ => .andFirst happ hres
  | sequenceFirst _ hres ih =>
    exact fun a => (ih a).imp (fun _ _ happ => .sequenceFirst happ Result.not_isSuccess_error)
      fun _ happ => .sequenceFirst happ hres
  | orSecond _ hout _ ihp ihq =>
    intro a
    refine (ihp a).andThen ihq ?_ ?_ ?_
    · exact fun _ _ happ => .orFirst happ Result.not_isRecoverable_error
    · exact fun _ _ _ happ happ' => .orSecond happ hout happ'
    · exact fun _ _ happ happ' => .orSecond happ hout happ'
  | andSecond _ _ ihp ihq =>
    intro a
    refine (ihp a).andThen ihq ?_ ?_ ?_
    · exact fun _ _ happ => .andFirst happ Result.not_isSuccess_error
    · exact fun _ _ _ happ happ' => .andSecond happ happ'
    · exact fun _ _ happ happ' => .andSecond happ happ'
  | sequenceNext _ _ ihp ihps =>
    intro a
    refine (ihp a).andThen ihps ?_ ?_ ?_
    · exact fun _ _ happ => .sequenceFirst happ Result.not_isSuccess_error
    · exact fun _ _ _ happ happ' => .sequenceNext happ happ'
    · exact fun _ _ happ happ' => .sequenceNext happ happ'
  | manyNext _ hlt _ ihp ihrest =>
    intro a
    refine (ihp a).andThen ihrest ?_ ?_ ?_
    · exact fun _ _ happ => .manyFault happ
    · exact fun _ _ _ happ happ' => .manyNext happ hlt happ'
    · exact fun _ _ happ happ' => .manyNext happ hlt happ'
  | @manyFails _ _ _ _ _ res _ hres hrec ih =>
    refine fun a => (ih a).imp (fun _ _ happ => .manyFault happ) fun _ happ => ?_
    rcases res with fault | ⟨v, next⟩ | ⟨position, e⟩
    · exact .manyFault happ
    · exact absurd ⟨v, next, rfl⟩ hres
    · refine .manyFatal happ ?_
      by_contra he
      exact hrec ⟨_, rfl, by simpa [Outcome.isRecoverable] using he⟩
  | @manyEnds _ _ _ _ _ out _ hout ih =>
    refine fun a => (ih a).imp (fun _ _ happ => .manyFault happ) fun _ happ => ?_
    rcases out with ⟨v, next⟩ | ⟨position, e⟩
    · cases hout
    · exact .manyEnd happ (by simpa [Outcome.isRecoverable] using hout)
  -- the question at the stop comes after those of the part
  | @manyStops _ key part start _ _ _ _ hlt ih =>
    intro a
    cases ih a with
    | interrupted hask happ => exact .interrupted (askAtStops_append_of_error hask) (.manyFault happ)
    | @undisturbed a' hask happ =>
      have hstop : Applies g tokens _ (.many key part) start a _ _ := .manyStopped happ hlt
      have happend : g.askAtStops (_ ++ [.stop part]) a.memory = _ := askAtStops_append_of_ok hask
      simp only [Parser.stopRepetition, Grammar.askAtStops] at hstop happend
      rcases hr : part.acceptsEmpty g a'.memory with ⟨fault | b, m⟩ <;> rw [hr] at hstop happend
      · exact .interrupted happend hstop
      · exact .undisturbed happend hstop
  -- a record is closed only by an outcome
  | @observed _ key name _ start _ res _ ih =>
    intro a
    cases ih (a.note (.observed key name start)) with
    | interrupted hask happ => exact .interrupted hask (.observedFault happ)
    | @undisturbed a' hask happ =>
      rcases res with fault | out
      · exact .undisturbed hask (.observedFault happ)
      · refine .undisturbed ?_ (.observed happ)
        exact hask
  | @entered _ _ rule _ _ _ res start hb hin _ ih =>
    intro a
    cases ih (a.note (.entered ⟨rule, start⟩ (g.name rule))) with
    | interrupted hask happ => exact .interrupted hask (.enteredFault hb hin happ)
    | @undisturbed a' hask happ =>
      rcases res with fault | out
      · exact .undisturbed hask (.enteredFault hb hin happ)
      · refine .undisturbed ?_ (.entered hb hin happ)
        exact hask

section Parse

/-- A machine that comes to the last frame ends with the account that it is said to have. -/
theorem Machine.Gives.exists_end {last : Kind} {M : Machine τ tokens.size last}
    {res : Except Fault (last.Given tokens.size)} {current : Finset Activation} {a : Account}
    (h : M.Gives g tokens .nil res (.of current a) a) :
    ∃ N active, M.Steps g tokens N ∧ N.next g tokens = .inr (res, .of active a) := by
  cases res with
  | error fault => exact h
  | ok x => exact ⟨_, current, h, by rw [next]⟩

/-- **An application has one result, and leaves one set of remembered answers and one record.** -/
theorem Applies.functional {a a₁ a₂ : Account} {res₁ res₂ : Result tokens}
    (h₁ : Applies g tokens active p start a res₁ a₁)
    (h₂ : Applies g tokens active p start a res₂ a₂) :
    res₁ = res₂ ∧ a₁.memory.answers = a₂.memory.answers ∧ a₁.events = a₂.events := by
  have hactive : ∀ x, x ∈ active.toFinset ↔ x ∈ active := fun _ => Guard.mem_toFinset
  obtain ⟨N₁, active₁, hN₁, hend₁⟩ := (h₁.gives .nil _ hactive).exists_end
  obtain ⟨N₂, active₂, hN₂, hend₂⟩ := (h₂.gives .nil _ hactive).exists_end
  obtain ⟨hres, hregisters⟩ := Prod.mk.inj (Machine.end_unique hN₁ hN₂ hend₁ hend₂)
  exact ⟨hres, congrArg Registers.answers hregisters, congrArg Registers.events hregisters⟩

theorem Applies.unique {a a₁ a₂ : Account} {res₁ res₂ : Result tokens}
    (h₁ : Applies g tokens active p start a res₁ a₁)
    (h₂ : Applies g tokens active p start a res₂ a₂) : res₁ = res₂ :=
  (h₁.functional h₂).1

omit [Token τ] in
theorem Answers.unique {opened : Opened} {q : Question τ} {m m₁ m₂ : Memory}
    {res₁ res₂ : Except Fault Bool} (h₁ : Answers g opened q m res₁ m₁)
    (h₂ : Answers g opened q m res₂ m₂) : res₁ = res₂ :=
  (h₁.functional h₂).1

omit [Token τ] in
/-- An answer is what a parser says, and what is remembered then. -/
theorem Answers.acceptsEmpty {q : Parser τ} {m m' : Memory} {b : Bool}
    (h : Answers g m.opened (.ask q) m (.ok b) m') :
    (q.acceptsEmpty g m).1 = .ok b ∧ (q.acceptsEmpty g m).2.answers = m'.answers := by
  obtain ⟨hb, hm⟩ := (answers_ask g q m).functional h
  exact ⟨hb, congrArg Memory.answers hm⟩

/-- A question is broken off only where a released rule is reached. -/
theorem Yields.not_unreleased {fault : Fault} {m : Memory}
    (h : Yields g tokens active p start es res) (hask : (g.askAtStops es m).1 = .error fault) :
    fault = .released ∧ ¬g.Unreleased p := by
  obtain ⟨hfault, part, hpart, hun⟩ := exists_stop_of_askAtStops hask
  exact ⟨hfault, fun h' => hun (h'.reaches (h.leads_of_stop hpart).to_reflTransGen)⟩

variable {c : Cursor τ} {a : Account} {es : List (Encounter τ)} {res : Result c.source.tokens}

theorem parse_eq_of_applies {a' : Account}
    (h : Applies g c.source.tokens ∅ p c.place a res a') :
    (p.parse g c a).1 = res.map (·.mapPlace c.moveTo) := by
  obtain ⟨res', happ, hres⟩ := applies_parse g p c a
  rw [hres, happ.unique h]

/-- If all questions are answered, a parse gives what its parser yields. -/
theorem Yields.parse_eq (h : Yields g c.source.tokens ∅ p c.place es res)
    (hask : (g.askAtStops es a.memory).1 = .ok ()) :
    (p.parse g c a).1 = res.map (·.mapPlace c.moveTo) := by
  cases h.realizes a with
  | interrupted hask' =>
    rw [hask'] at hask
    cases hask
  | undisturbed _ happ => exact parse_eq_of_applies happ

/-- A question that is broken off breaks off the parse. -/
theorem Yields.parse_eq_error {fault : Fault}
    (h : Yields g c.source.tokens ∅ p c.place es res)
    (hask : (g.askAtStops es a.memory).1 = .error fault) : (p.parse g c a).1 = .error fault := by
  cases h.realizes a with
  | interrupted hask' happ =>
    rw [hask'] at hask
    cases hask
    exact parse_eq_of_applies happ
  | undisturbed hask' =>
    rw [hask'] at hask
    cases hask

theorem Yields.askAtStops_eq_ok (h : Yields g c.source.tokens ∅ p c.place es res)
    (hun : g.Unreleased p) (m : Memory) : (g.askAtStops es m).1 = .ok () := by
  rcases hask : (g.askAtStops es m).1 with fault | _
  · exact absurd hun (h.not_unreleased hask).2
  · rfl

end Parse

/-- **What breaks a parse off.** Every parser yields a result at every cursor, on its own: it is a
fault iff a rule without a definition is applied on the way, and then the fault of that rule. A
parse gives this result, whatever was asked or parsed before, unless the question at the stop of a
repetition is broken off; then it ends in the fault of a released rule, and the part that was
repeated reaches a released rule. -/
theorem parse_faults_iff (g : Grammar τ) (p : Parser τ) (c : Cursor τ) :
    ∃ es res, Yields g c.source.tokens ∅ p c.place es res ∧
      (∀ fault, res = .error fault ↔ ∃ rule, .rule rule ∈ es ∧ g.fault? rule = some fault) ∧
      (∀ a, (g.askAtStops es a.memory).1 = .ok () →
        (p.parse g c a).1 = res.map (·.mapPlace c.moveTo) ∧
        ∀ fault, (p.parse g c a).1 = .error fault ↔
          ∃ rule, .rule rule ∈ es ∧ g.fault? rule = some fault) ∧
      (∀ a fault, (g.askAtStops es a.memory).1 = .error fault →
        fault = .released ∧ (p.parse g c a).1 = .error .released ∧
        ∃ part, .stop part ∈ es ∧ ¬g.Unreleased part) ∧
      (g.Unreleased p → ∀ m, (g.askAtStops es m).1 = .ok ()) := by
  obtain ⟨es, res, h⟩ := exists_yields g c.source.tokens ∅ p c.place
  refine ⟨es, res, h, h.eq_error_iff, fun a hask => ?_, fun a fault hask => ?_,
    h.askAtStops_eq_ok⟩
  · have hparse := h.parse_eq hask
    exact ⟨hparse, fun fault => by rw [hparse, map_eq_error_iff, h.eq_error_iff]⟩
  · obtain ⟨rfl, hpart⟩ := exists_stop_of_askAtStops hask
    exact ⟨rfl, h.parse_eq_error hask, hpart⟩

namespace Interruption

/-- A grammar whose one rule was released. -/
def lostRule : Grammar Char := #[⟨"#0", .released⟩]

/-- A choice that matches nothing. Its first alternative fails before it comes to the rule. -/
def lostBranch : Parser Char :=
  .or 3 (.and 2 (.primitive 0 (.fail "no")) (.refer 1 0 false)) (.primitive 4 (.pure .unit))

/-- The choice, any number of times. -/
def lostLoop : Parser Char := .many 5 lostBranch

/-- The question about the choice comes to the rule, whatever else is being asked about. -/
theorem answers_lostBranch {opened : Opened} (h₁ : opened.depthOf? 1 = none)
    (h₂ : opened.depthOf? 2 = none) (h₃ : opened.depthOf? 3 = none) :
    ∃ m', Answers lostRule opened (.ask lostBranch) {} (.error .released) m' := by
  have hnone : ∀ key : Key, ({} : Memory).answers[key]? = none := by simp
  have h₂' : (opened.push 3).depthOf? 2 = none := by
    rw [Opened.depthOf?_push_of_ne (by decide), h₂]
  have h₁' : ((opened.push 3).push 2).depthOf? 1 = none := by
    rw [Opened.depthOf?_push_of_ne (by decide), Opened.depthOf?_push_of_ne (by decide), h₁]
  exact ⟨_, .askedFault (hnone 3) h₃ (.orFirst (.askedFault (hnone 2) h₂' (.andSecond (.known rfl)
    (.askedFault (hnone 1) h₁' (.released rfl)))) (by simp))⟩

theorem acceptsEmpty_lostBranch : (lostBranch.acceptsEmpty lostRule {}).1 = .error .released := by
  obtain ⟨m', h⟩ : ∃ m', Answers lostRule Opened.empty (.ask lostBranch) {} (.error .released) m' :=
    answers_lostBranch rfl rfl rfl
  exact (answers_ask lostRule lostBranch {}).unique h

theorem askAtStops_lostBranch :
    (lostRule.askAtStops [.stop lostBranch] {}).1 = .error .released := by
  have h := acceptsEmpty_lostBranch
  rw [Grammar.askAtStops]
  rcases hr : lostBranch.acceptsEmpty lostRule {} with ⟨fault | b, m⟩ <;> rw [hr] at h
  · cases h
    rfl
  · cases h

/-- The choice yields a match of no tokens, and the repetition stops there. -/
theorem yields_lostLoop {tokens : Array Char} (start : Fin (tokens.size + 1)) :
    Yields lostRule tokens ∅ lostLoop start [.stop lostBranch]
      (.ok (.success (.list [.unit]) start)) := by
  have hfirst : Yields lostRule tokens ∅
      (.and 2 (.primitive 0 (.fail "no")) (.refer 1 0 false)) start []
      (.ok (.failure start (.custom start "no"))) :=
    .andFirst .primitive (by rintro ⟨v, next, ⟨⟩⟩)
  have hpart : Yields lostRule tokens ∅ lostBranch start [] (.ok (.success .unit start)) :=
    .orSecond hfirst rfl .primitive
  exact .manyStops hpart (Nat.lt_irrefl _)

end Interruption

open Interruption in
/-- **A rule that is not applied breaks a parse off.** On empty input the parser comes across no rule
and yields a match, but its parse ends in the fault of a released rule. -/
theorem unapplied_rule_breaks_off :
    Yields lostRule #[] ∅ lostLoop 0 [.stop lostBranch] (.ok (.success (.list [.unit]) 0)) ∧
      (lostLoop.parse lostRule (Cursor.start ⟨0, #[]⟩) {}).1 = .error .released :=
  ⟨yields_lostLoop 0, (yields_lostLoop 0).parse_eq_error askAtStops_lostBranch⟩

end GuardedParsing
