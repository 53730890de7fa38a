import GuardedParsing.Proofs.Applied
import GuardedParsing.Proofs.Interruption

/-!
# Repetition

A repetition applies its part in rounds. A round that matches and consumes a token is followed by
another one where it stopped; anything else is the end.

* `Rounds`: the rounds that go on, each where the one before it stopped.
* `RepetitionEnds`: the ways in which a repetition ends after such rounds.
* `many_exact`: **a repetition is a maximal run of rounds and an end**, for every part, place, guard
  and account. The rounds go forward, so that there are no more of them than tokens.
* `repetition_broken_off`: the way that its own documentation leaves out. A match of no tokens is the
  last one, but to record it the repetition asks whether its part accepts empty input, and that may
  come to a released rule that the part itself did not apply.
-/

namespace GuardedParsing

variable {τ : Type} [Token τ]

section Rounds

variable (g : Grammar τ) (tokens : Array τ) (active : Guard) (part : Parser τ)

/-- `Rounds g tokens active part start a rounds last a'`: the part, applied again and again from
`start` on, gives the matches of `rounds`, each with the place where it was tried, and consumes a
token each time. The last of them stops at `last`, and the account `a` becomes `a'`. -/
inductive Rounds : Fin (tokens.size + 1) → Account → List (Fin (tokens.size + 1) × Value) →
    Fin (tokens.size + 1) → Account → Prop
  | nil {start a} : Rounds start a [] start a
  | cons {start a v next a' rounds last a''}
      (hpart : part.applied g tokens active start a = (.ok (.success v next), a'))
      (hlt : start < next) (hrest : Rounds next a' rounds last a'') :
      Rounds start a ((start, v) :: rounds) last a''

/-- `RepetitionEnds g tokens active part vs last a result`: after rounds that gave the values `vs`
and stopped at `last` with the account `a`, the repetition ends with `result`. -/
inductive RepetitionEnds (vs : List Value) (last : Fin (tokens.size + 1)) (a : Account) :
    Result tokens × Account → Prop
  /-- The part fails: its attempt is taken back. -/
  | failed {place e a'} (hpart : part.applied g tokens active last a = (.ok (.failure place e), a'))
      (he : e.isFatal = false) : RepetitionEnds vs last a (.ok (.success (.list vs) last), a')
  /-- The part matches nothing: its value is the last one, and the stop is recorded. -/
  | stopped {v a' b m} (hpart : part.applied g tokens active last a = (.ok (.success v last), a'))
      (hask : part.acceptsEmpty g a'.memory = (.ok b, m)) :
      RepetitionEnds vs last a (.ok (.success (.list (vs ++ [v])) last),
        ⟨m, a'.events.push (.stopped part.key last b)⟩)
  /-- The part fails fatally: the failure is passed on as it is. -/
  | fatal {place e a'} (hpart : part.applied g tokens active last a = (.ok (.failure place e), a'))
      (he : e.isFatal = true) : RepetitionEnds vs last a (.ok (.failure place e), a')
  /-- The part is broken off, and the repetition with it. -/
  | fault {fault a'} (hpart : part.applied g tokens active last a = (.error fault, a')) :
      RepetitionEnds vs last a (.error fault, a')
  /-- The part matches nothing, but the question for the record comes to a released rule. -/
  | lost {v a' m} (hpart : part.applied g tokens active last a = (.ok (.success v last), a'))
      (hask : part.acceptsEmpty g a'.memory = (.error .released, m)) (hlost : ¬g.Unreleased part) :
      RepetitionEnds vs last a (.error .released, ⟨m, a'.events⟩)

end Rounds

section Equations

variable {g : Grammar τ} {tokens : Array τ} {active : Guard} {part : Parser τ} {key : Key}
  {start next : Fin (tokens.size + 1)} {a a' : Account} {v : Value}

theorem applied_many (g : Grammar τ) (tokens : Array τ) (active : Guard) (part : Parser τ)
    (key : Key) (start : Fin (tokens.size + 1)) (a : Account) :
    (Parser.many key part).applied g tokens active start a =
      (((part.iterate g tokens active start).value.runFrom a).1.map (·.map .list),
        ((part.iterate g tokens active start).value.runFrom a).2) := by
  rw [applied_eq_runFrom, Parser.evaluate, Trampoline.runFrom_bind]
  rcases (part.iterate g tokens active start).value.runFrom a with ⟨fault | out, a'⟩ <;> rfl

/-- A round that consumed a token is followed by the repetition from where it stopped. -/
theorem applied_many_of_lt (h : part.applied g tokens active start a = (.ok (.success v next), a'))
    (hlt : start < next) :
    (Parser.many key part).applied g tokens active start a =
      (((Parser.many key part).applied g tokens active next a').1.map (·.map v.prepend),
        ((Parser.many key part).applied g tokens active next a').2) := by
  rw [applied_eq_runFrom] at h
  rw [applied_many, applied_many, Parser.iterate, Trampoline.runFrom_bind, Trampoline.value_more, h]
  simp only [hlt, dif_pos, Trampoline.runFrom_bind]
  rcases (part.iterate g tokens active next).value.runFrom a' with ⟨fault | out, a''⟩
  · rfl
  · exact Prod.ext (congrArg Except.ok (map_prepend v out)) rfl

/-- A round that consumed nothing is the last one. -/
theorem applied_many_of_not_lt
    (h : part.applied g tokens active start a = (.ok (.success v next), a'))
    (hlt : ¬start < next) :
    (Parser.many key part).applied g tokens active start a =
      ((part.stopRepetition g start a').1.map fun _ => .success (.list [v]) next,
        (part.stopRepetition g start a').2) := by
  rw [applied_eq_runFrom] at h
  rw [applied_many, Parser.iterate, Trampoline.runFrom_bind, Trampoline.value_more, h]
  simp only [hlt, dif_neg, not_false_eq_true, Trampoline.runFrom_bind, Trampoline.value_perform,
    Effect.runFrom_ofFunction]
  rcases part.stopRepetition g start a' with ⟨fault | out, a''⟩ <;> rfl

theorem applied_many_of_failure {place : Fin (tokens.size + 1)} {e : ParseError}
    (h : part.applied g tokens active start a = (.ok (.failure place e), a')) :
    (Parser.many key part).applied g tokens active start a =
      (.ok (if e.isFatal then .failure place e else .success (.list []) start), a') := by
  rw [applied_eq_runFrom] at h
  rw [applied_many, Parser.iterate, Trampoline.runFrom_bind, Trampoline.value_more, h]
  rcases he : e.isFatal with _ | _ <;> simp only [he] <;> rfl

theorem applied_many_of_fault {fault : Fault}
    (h : part.applied g tokens active start a = (.error fault, a')) :
    (Parser.many key part).applied g tokens active start a = (.error fault, a') := by
  rw [applied_eq_runFrom] at h
  rw [applied_many, Parser.iterate, Trampoline.runFrom_bind, Trampoline.value_more, h]
  rfl

end Equations

section Runs

variable {g : Grammar τ} {tokens : Array τ} {active : Guard} {part : Parser τ} {key : Key}
  {start last : Fin (tokens.size + 1)} {a a' : Account} {v : Value}
  {rounds : List (Fin (tokens.size + 1) × Value)}

/-- The rounds go forward, to the place where the last one stopped. -/
theorem Rounds.places_increase (h : Rounds g tokens active part start a rounds last a') :
    start ≤ last ∧ (rounds.map Prod.fst ++ [last]).Pairwise (· < ·) ∧
      ∀ place ∈ rounds.map Prod.fst ++ [last], start ≤ place := by
  induction h with
  | nil => exact ⟨Fin.le_refl _, by simp, by simp⟩
  | @cons start _ v next _ rounds last _ _ hlt _ ih =>
    obtain ⟨hle, hinc, hmin⟩ := ih
    have hstart : ∀ place ∈ rounds.map Prod.fst ++ [last], start < place := fun place hplace =>
      Fin.lt_of_lt_of_le hlt (hmin place hplace)
    refine ⟨Fin.le_of_lt (Fin.lt_of_lt_of_le hlt hle), List.pairwise_cons.2 ⟨hstart, hinc⟩, ?_⟩
    intro place hplace
    rcases List.mem_cons.1 hplace with rfl | hplace
    · exact Fin.le_refl _
    · exact Fin.le_of_lt (hstart place hplace)

/-- Each round consumes a token at least. -/
theorem Rounds.length_le (h : Rounds g tokens active part start a rounds last a') :
    rounds.length + start.val ≤ last.val := by
  induction h with
  | nil => simp
  | cons _ hlt _ ih =>
    have hlt := Fin.lt_def.1 hlt
    rw [List.length_cons]
    omega

/-- The value of a round before others comes before theirs. -/
theorem RepetitionEnds.prepend {vs : List Value} {result : Result tokens × Account}
    (h : RepetitionEnds g tokens active part vs last a result) (v : Value) :
    RepetitionEnds g tokens active part (v :: vs) last a
      (result.1.map (·.map v.prepend), result.2) := by
  cases h with
  | failed hpart he => exact .failed hpart he
  | stopped hpart hask => exact .stopped hpart hask
  | fatal hpart he => exact .fatal hpart he
  | fault hpart => exact .fault hpart
  | lost hpart hask hlost => exact .lost hpart hask hlost

omit [Token τ] in
/-- The question at the stop of a repetition is answered, or it comes to a released rule. -/
theorem stopRepetition_cases (g : Grammar τ) (part : Parser τ) (position : Nat) (a : Account) :
    (∃ b m, part.acceptsEmpty g a.memory = (.ok b, m) ∧ part.stopRepetition g position a =
      (.ok (), ⟨m, a.events.push (.stopped part.key position b)⟩)) ∨
    ∃ m, part.acceptsEmpty g a.memory = (.error .released, m) ∧ ¬g.Unreleased part ∧
      part.stopRepetition g position a = (.error .released, ⟨m, a.events⟩) := by
  have hanswer := answers_ask g part a.memory
  rw [Parser.stopRepetition]
  rcases hask : part.acceptsEmpty g a.memory with ⟨fault | b, m⟩ <;> rw [hask] at hanswer
  · obtain rfl := hanswer.eq_released fault rfl
    refine .inr ⟨m, rfl, fun hun => ?_, rfl⟩
    obtain ⟨b, hb⟩ := hanswer.exists_ok hun
    cases hb
  · exact .inl ⟨b, m, rfl, rfl⟩

/-- A repetition whose first round does not go on. -/
theorem repetitionEnds_of_not_lt (key : Key)
    (h : ∀ v next a', part.applied g tokens active start a = (.ok (.success v next), a') →
      ¬start < next) :
    RepetitionEnds g tokens active part [] start a
      ((Parser.many key part).applied g tokens active start a) := by
  rcases hr : part.applied g tokens active start a with ⟨fault | ⟨v, next⟩ | ⟨place, e⟩, a'⟩
  · rw [applied_many_of_fault hr]
    exact .fault hr
  · have hlt := h v next a' hr
    rw [applied_many_of_not_lt hr hlt]
    -- no match goes back, so this one stays where it is
    obtain rfl : start = next := Fin.le_antisymm (le_of_applied hr) (Fin.not_lt.1 hlt)
    rcases stopRepetition_cases g part start a' with ⟨b, m, hask, hstop⟩ | ⟨m, hask, hlost, hstop⟩
    · rw [hstop]
      exact .stopped hr hask
    · rw [hstop]
      exact .lost hr hask hlost
  · rw [applied_many_of_failure hr]
    rcases he : e.isFatal with _ | _
    · exact .failed hr he
    · exact .fatal hr he

/-- A repetition is a run of rounds and an end. -/
theorem exists_rounds (g : Grammar τ) (tokens : Array τ) (active : Guard) (key : Key)
    (part : Parser τ) (start : Fin (tokens.size + 1)) (a : Account) :
    ∃ rounds last a', Rounds g tokens active part start a rounds last a' ∧
      RepetitionEnds g tokens active part (rounds.map Prod.snd) last a'
        ((Parser.many key part).applied g tokens active start a) := by
  by_cases h : ∃ v next a', part.applied g tokens active start a = (.ok (.success v next), a') ∧
      start < next
  · obtain ⟨v, next, a', hpart, hlt⟩ := h
    obtain ⟨rounds, last, a'', hrounds, hends⟩ := exists_rounds g tokens active key part next a'
    rw [applied_many_of_lt hpart hlt]
    exact ⟨(start, v) :: rounds, last, a'', .cons hpart hlt hrounds, hends.prepend v⟩
  · exact ⟨[], start, a, .nil, repetitionEnds_of_not_lt key fun v next a' hpart hlt =>
      h ⟨v, next, a', hpart, hlt⟩⟩
termination_by tokens.size - start

/-- A repetition that matches does so where its last round stopped, with one value more than there
are rounds at most. -/
theorem RepetitionEnds.of_success {vs : List Value} {next : Fin (tokens.size + 1)}
    {result : Result tokens × Account}
    (h : RepetitionEnds g tokens active part vs last a result)
    (hresult : result.1 = .ok (.success v next)) :
    next = last ∧ v.items.length ≤ vs.length + 1 := by
  cases h with
  | failed | stopped =>
    cases hresult
    simp [Value.items]
  | fatal | fault | lost => cases hresult

/-- A repetition fails only with the fatal failure of its part. -/
theorem RepetitionEnds.of_failure {vs : List Value} {place : Fin (tokens.size + 1)}
    {e : ParseError} {result : Result tokens × Account}
    (h : RepetitionEnds g tokens active part vs last a result)
    (hresult : result.1 = .ok (.failure place e)) :
    e.isFatal = true ∧ part.applied g tokens active last a = result := by
  cases h with
  | fatal hpart he =>
    cases hresult
    exact ⟨he, hpart⟩
  | failed | stopped | fault | lost => cases hresult

end Runs

/-- **A repetition is a maximal run of rounds and an end.** The rounds go forward, so that there are
no more of them than tokens are left, and the values of the repetition are those of its rounds, in
order, with the value of a match of no tokens after them. A repetition that matches does so where the
last round stopped; it fails only with the fatal failure of its part. -/
theorem many_exact (g : Grammar τ) (tokens : Array τ) (active : Guard) (key : Key)
    (part : Parser τ) (start : Fin (tokens.size + 1)) (a : Account) :
    ∃ rounds last a', Rounds g tokens active part start a rounds last a' ∧
      (rounds.map Prod.fst ++ [last]).Pairwise (· < ·) ∧
      RepetitionEnds g tokens active part (rounds.map Prod.snd) last a'
        ((Parser.many key part).applied g tokens active start a) ∧
      (∀ v next, ((Parser.many key part).applied g tokens active start a).1 =
        .ok (.success v next) →
          next = last ∧ v.items.length ≤ tokens.size - start.val + 1) ∧
      ∀ place e, ((Parser.many key part).applied g tokens active start a).1 =
        .ok (.failure place e) →
          e.isFatal = true ∧ part.applied g tokens active last a' =
            (Parser.many key part).applied g tokens active start a := by
  obtain ⟨rounds, last, a', hrounds, hends⟩ := exists_rounds g tokens active key part start a
  refine ⟨rounds, last, a', hrounds, hrounds.places_increase.2.1, hends, fun v next h => ?_,
    fun place e h => hends.of_failure h⟩
  obtain ⟨hnext, hlength⟩ := hends.of_success h
  have hrounds := hrounds.length_le
  have hlast : last.val ≤ tokens.size := Nat.le_of_lt_succ last.isLt
  rw [List.length_map] at hlength
  exact ⟨hnext, by omega⟩

namespace Interruption

/-- A letter, or a choice that matches nothing and whose first alternative does not come as far as
its rule. -/
def letterOrLost : Parser Char := .or 7 (.primitive 6 (.satisfy "a" (· == 'a'))) lostBranch

theorem acceptsEmpty_letterOrLost : (letterOrLost.acceptsEmpty lostRule {}).1 = .error .released := by
  have hnone : ∀ key : Key, ({} : Memory).answers[key]? = none := by simp
  obtain ⟨m', hor⟩ : ∃ m', Answers lostRule (Opened.empty.push 7) (.ask lostBranch) {}
      (.error .released) m' := answers_lostBranch rfl rfl rfl
  exact (answers_ask _ _ _).unique (.askedFault (hnone 7) rfl (.orSecond (.known rfl) hor))

end Interruption

open Interruption in
/-- **A repetition may be broken off after a match of no tokens.** On the text `a`, the part matches
the letter and then nothing, but the repetition ends in the fault of a released rule. -/
theorem repetition_broken_off :
    ∃ a', Rounds lostRule #['a'] ∅ letterOrLost 0 {} [(0, .char 'a')] 1 a' ∧
      letterOrLost.applied lostRule #['a'] ∅ 1 a' = (.ok (.success .unit 1), a') ∧
      ((Parser.many 8 letterOrLost).applied lostRule #['a'] ∅ 0 {}).1 = .error .released := by
  have hletter : letterOrLost.applied lostRule #['a'] ∅ 0 {} =
      (.ok (.success (.char 'a') 1), {}) := by
    cbv
  have hnothing : letterOrLost.applied lostRule #['a'] ∅ 1 {} = (.ok (.success .unit 1), {}) := by
    cbv
  refine ⟨{}, .cons hletter (by decide) .nil, hnothing, ?_⟩
  have hask := acceptsEmpty_letterOrLost
  rw [applied_many_of_lt hletter (by decide), applied_many_of_not_lt hnothing (by decide),
    Parser.stopRepetition]
  rcases hr : letterOrLost.acceptsEmpty lostRule {} with ⟨fault | b, m⟩ <;> rw [hr] at hask
  · cases hask
    rfl
  · cases hask

end GuardedParsing
