import GuardedParsing.Parser.Build
import GuardedParsing.Proofs.Repetition

/-!
# A match and a repetition after it

A parser at least once is the parser and then a repetition of its own, not a repetition that looks
whether there was a round. The two come to the same, except after a match of no tokens: it ends the
repetition, but here it is followed by a repetition that starts afresh.

* `Result.UnlessLost`: a result, unless a question at the stop of a repetition came to a released
  rule; `applied_unlessLost`: what matches with one account does so with every other, unless lost.
* `applied_map_and_of_success`, `applied_map_and_of_not_isSuccess`: two parsers in order, and a
  function of the pair.
* `many_isSuccess_iff`: a repetition succeeds iff no round after others is fatal.
* `many1_exact`: **a parser at least once succeeds iff it matches and no later round is fatal. It
  gives what the repetition gives**, unless its first match has no tokens: then it gives the value
  twice, and the repetition gives it once.
-/

namespace GuardedParsing

variable {τ : Type}

/-- The result is as expected, or it was lost: a question at the stop of a repetition came to a
released rule. This is for a reason only. -/
def Result.UnlessLost {tokens : Array τ} (reason : Prop) (expected res : Result tokens) : Prop :=
  res = expected ∨ res = .error .released ∧ reason

section Lost

variable {tokens : Array τ} {reason reason' : Prop} {expected res : Result tokens}

theorem Result.UnlessLost.map (h : Result.UnlessLost reason expected res)
    (f : Outcome (Fin (tokens.size + 1)) Value → Outcome (Fin (tokens.size + 1)) Value) :
    @Result.UnlessLost τ tokens reason (expected.map f) (res.map f) := by
  rcases h with rfl | ⟨rfl, hlost⟩
  · exact .inl rfl
  · exact .inr ⟨rfl, hlost⟩

theorem Result.UnlessLost.imp (h : Result.UnlessLost reason expected res)
    (himp : reason → reason') : Result.UnlessLost reason' expected res :=
  Or.imp_right (And.imp_right himp) h

theorem Result.UnlessLost.eq (h : Result.UnlessLost reason expected res) (hreason : ¬reason) :
    res = expected :=
  h.resolve_right fun hlost => hreason hlost.2

end Lost

variable [Token τ] {g : Grammar τ} {tokens : Array τ} {active : Guard} {p q part : Parser τ}
  {start next last : Fin (tokens.size + 1)} {a a' : Account} {v : Value}

/-- What a parser gives does not depend on what was asked or parsed before. -/
theorem applied_unlessLost {out : Outcome (Fin (tokens.size + 1)) Value}
    (h : p.applied g tokens active start a = (.ok out, a')) (b : Account) :
    Result.UnlessLost (¬g.Unreleased p) (.ok out) (p.applied g tokens active start b).1 := by
  obtain ⟨es, res, hyields⟩ := exists_yields g tokens active p start
  have hout := applies_applied g tokens active p start a
  rw [h] at hout
  obtain rfl : res = .ok out := by
    cases hyields.realizes a with
    | interrupted _ happ => cases happ.unique hout
    | undisturbed _ happ => exact happ.unique hout
  have hres := applies_applied g tokens active p start b
  cases hyields.realizes b with
  | interrupted hask happ =>
    obtain ⟨rfl, hlost⟩ := hyields.not_unreleased (congrArg Prod.fst hask)
    exact .inr ⟨hres.unique happ, hlost⟩
  | undisturbed _ happ => exact .inl (hres.unique happ)

section InOrder

variable {key key' : Key} {f : Value → Value}

/-- After a match, the second parser decides, and the function is applied to the pair. -/
theorem applied_map_and_of_success
    (h : p.applied g tokens active start a = (.ok (.success v next), a')) :
    (Parser.modified key (.map f) (.and key' p q)).applied g tokens active start a =
      ((q.applied g tokens active next a').1.map (·.map fun w => f (.pair v w)),
        (q.applied g tokens active next a').2) := by
  rw [applied_modified, applied_and_of_success h]
  rcases q.applied g tokens active next a' with ⟨fault | ⟨w, last⟩ | ⟨place, e⟩, a''⟩ <;> rfl

/-- Unless the first parser matches, its result is that of the whole. -/
theorem applied_map_and_of_not_isSuccess
    (h : ¬(p.applied g tokens active start a).1.IsSuccess) :
    (Parser.modified key (.map f) (.and key' p q)).applied g tokens active start a =
      p.applied g tokens active start a := by
  rw [applied_modified, applied_and_of_not_isSuccess h]
  exact Prod.ext (Result.map_of_not_isSuccess h) rfl

theorem applied_map_and_of_failure {place : Fin (tokens.size + 1)} {e : ParseError}
    (h : p.applied g tokens active start a = (.ok (.failure place e), a')) :
    (Parser.modified key (.map f) (.and key' p q)).applied g tokens active start a =
      (.ok (.failure place e), a') := by
  rw [applied_map_and_of_not_isSuccess (by rw [h]; exact Result.not_isSuccess_failure), h]

end InOrder

section Rounds

variable {rounds : List (Fin (tokens.size + 1) × Value)}

/-- A repetition succeeds iff it does so from the place that some of its rounds lead to. -/
theorem Rounds.isSuccess_iff (key : Key) (h : Rounds g tokens active part start a rounds last a') :
    ((Parser.many key part).applied g tokens active start a).1.IsSuccess ↔
      ((Parser.many key part).applied g tokens active last a').1.IsSuccess := by
  induction h with
  | nil => exact Iff.rfl
  | cons hpart hlt _ ih =>
    rw [applied_many_of_lt hpart hlt]
    exact Result.isSuccess_map.trans ih

/-- A round that is neither a match nor to be taken back ends the repetition with its own result. -/
theorem not_isSuccess_many (key : Key) (hsuccess : ¬(part.applied g tokens active start a).1.IsSuccess)
    (hrecover : ¬(part.applied g tokens active start a).1.IsRecoverable) :
    ¬((Parser.many key part).applied g tokens active start a).1.IsSuccess := by
  rcases hr : part.applied g tokens active start a with ⟨fault | ⟨v, next⟩ | ⟨place, e⟩, a'⟩ <;>
    rw [hr] at hsuccess hrecover
  · rw [applied_many_of_fault hr]
    exact Result.not_isSuccess_error
  · exact absurd ⟨v, next, rfl⟩ hsuccess
  · have he : e.isFatal = true := by
      by_contra he
      exact hrecover ⟨_, rfl, by simpa [Outcome.isRecoverable] using he⟩
    rw [applied_many_of_failure hr, if_pos he]
    exact Result.not_isSuccess_failure

/-- **A repetition succeeds iff every round that comes up matches or is taken back**, as long as no
released rule is reached. -/
theorem many_isSuccess_iff (key : Key) (hun : g.Unreleased part) :
    ((Parser.many key part).applied g tokens active start a).1.IsSuccess ↔
      ∀ rounds last a', Rounds g tokens active part start a rounds last a' →
        (part.applied g tokens active last a').1.IsSuccess ∨
          (part.applied g tokens active last a').1.IsRecoverable := by
  constructor
  · intro h rounds last a' hrounds
    by_contra hpart
    rw [not_or] at hpart
    exact not_isSuccess_many key hpart.1 hpart.2 ((hrounds.isSuccess_iff key).1 h)
  · intro h
    obtain ⟨rounds, last, a', hrounds, hends⟩ := exists_rounds g tokens active key part start a
    have hpart := h rounds last a' hrounds
    generalize (Parser.many key part).applied g tokens active start a = result at hends ⊢
    cases hends with
    | failed | stopped => exact ⟨_, _, rfl⟩
    | fatal hr he =>
      rw [hr] at hpart
      rcases hpart with ⟨_, _, ⟨⟩⟩ | ⟨_, ⟨⟩, hrecover⟩
      simp [Outcome.isRecoverable, he] at hrecover
    | fault hr =>
      rw [hr] at hpart
      exact (hpart.elim Result.not_isSuccess_error Result.not_isRecoverable_error).elim
    | lost _ _ hlost => exact absurd hun hlost

/-- A repetition that starts with a match of no tokens gives its value alone. -/
theorem many_of_zero_width (key : Key)
    (h : part.applied g tokens active start a = (.ok (.success v start), a')) :
    Result.UnlessLost (¬g.Unreleased part) (.ok (.success (.list [v]) start))
      ((Parser.many key part).applied g tokens active start a).1 := by
  rw [applied_many_of_not_lt h (Fin.lt_irrefl start)]
  rcases stopRepetition_cases g part start a' with ⟨b, m, _, hstop⟩ | ⟨m, _, hlost, hstop⟩ <;>
    rw [hstop]
  · exact .inl rfl
  · exact .inr ⟨rfl, hlost⟩

end Rounds

section AtLeastOnce

variable {key₁ key₂ key₃ : Key}

/-- A match that consumed a token is the first round of a repetition. -/
theorem applied_atLeastOnce_of_lt (key : Key)
    (h : part.applied g tokens active start a = (.ok (.success v next), a')) (hlt : start < next) :
    (Parser.modified key₃ (.map Build.prepended) (.and key₂ part (.many key₁ part))).applied
        g tokens active start a =
      (Parser.many key part).applied g tokens active start a := by
  rw [applied_map_and_of_success h, applied_many_of_lt h hlt, applied_many, applied_many]
  rfl

/-- A match of no tokens is followed by a repetition that matches it again. -/
theorem atLeastOnce_of_zero_width
    (h : part.applied g tokens active start a = (.ok (.success v start), a')) :
    Result.UnlessLost (¬g.Unreleased part) (.ok (.success (.list [v, v]) start))
      ((Parser.modified key₃ (.map Build.prepended) (.and key₂ part (.many key₁ part))).applied
        g tokens active start a).1 := by
  rw [applied_map_and_of_success h]
  rcases hr : part.applied g tokens active start a' with ⟨res, a''⟩
  have hagain := applied_unlessLost h a'
  rw [hr] at hagain
  rcases hagain with rfl | ⟨rfl, hlost⟩
  · exact (many_of_zero_width key₁ hr).map _
  · rw [applied_many_of_fault hr]
    exact .inr ⟨rfl, hlost⟩

end AtLeastOnce

/-- **A parser at least once, beside the parser any number of times.** Where the parser does not
match, its result is that of both. Where it consumes a token, both have the same result, and leave
the same account. A match of no tokens counts once in the repetition, but twice here. As long as no
released rule is reached, the parser at least once succeeds iff the parser matches and no later round
is fatal. -/
theorem many1_exact (part : Parser τ) (d : Draft τ) :
    ∃ q d', (Build.many1 part).runFrom d = (.ok q, d') ∧
      ∀ (g : Grammar τ) (tokens : Array τ) (active : Guard) (key : Key)
        (start : Fin (tokens.size + 1)) (a : Account),
        (¬(part.applied g tokens active start a).1.IsSuccess →
          q.applied g tokens active start a = part.applied g tokens active start a) ∧
        (∀ v next a', part.applied g tokens active start a = (.ok (.success v next), a') →
          start < next → q.applied g tokens active start a =
            (Parser.many key part).applied g tokens active start a) ∧
        (∀ v a', part.applied g tokens active start a = (.ok (.success v start), a') →
          Result.UnlessLost (¬g.Unreleased part) (.ok (.success (.list [v]) start))
              ((Parser.many key part).applied g tokens active start a).1 ∧
            Result.UnlessLost (¬g.Unreleased part) (.ok (.success (.list [v, v]) start))
              (q.applied g tokens active start a).1) ∧
        (g.Unreleased part → ((q.applied g tokens active start a).1.IsSuccess ↔
          (part.applied g tokens active start a).1.IsSuccess ∧
            ∀ rounds last a', Rounds g tokens active part start a rounds last a' →
              (part.applied g tokens active last a').1.IsSuccess ∨
                (part.applied g tokens active last a').1.IsRecoverable)) := by
  refine ⟨_, _, rfl, fun g tokens active key start a => ⟨applied_map_and_of_not_isSuccess,
    fun v next a' h hlt => applied_atLeastOnce_of_lt key h hlt,
    fun v a' h => ⟨many_of_zero_width key h, atLeastOnce_of_zero_width h⟩, fun hun => ?_⟩⟩
  rw [← many_isSuccess_iff key hun]
  by_cases hpart : (part.applied g tokens active start a).1.IsSuccess
  · rw [and_iff_right hpart]
    obtain ⟨v, next, a', hr⟩ := exists_applied_of_isSuccess hpart
    rcases Fin.lt_or_eq_of_le (le_of_applied hr) with hlt | rfl
    · rw [applied_atLeastOnce_of_lt key hr hlt]
    · rw [(many_of_zero_width key hr).eq (not_not.2 hun), (atLeastOnce_of_zero_width hr).eq (not_not.2 hun)]
      exact ⟨fun _ => ⟨_, _, rfl⟩, fun _ => ⟨_, _, rfl⟩⟩
  · rw [applied_map_and_of_not_isSuccess hpart]
    exact iff_of_false hpart fun h => hpart h.1

/-- **An empty match counts twice in a parser at least once**, and once in the repetition. -/
theorem empty_match_counts_twice :
    ∃ (part once repeated : Parser Char) (d d' d'' : Draft Char),
      (Build.pure (.int 1)).runFrom {} = (.ok part, d) ∧
      (Build.many1 part).runFrom d = (.ok once, d') ∧
      (Build.many part).runFrom d = (.ok repeated, d'') ∧
      (once.applied d'.grammar #['a', 'b', 'c'] ∅ 0 {}).1 =
        .ok (.success (.list [.int 1, .int 1]) 0) ∧
      (repeated.applied d''.grammar #['a', 'b', 'c'] ∅ 0 {}).1 =
        .ok (.success (.list [.int 1]) 0) := by
  refine ⟨_, _, _, _, _, _, rfl, rfl, rfl, ?_⟩
  have hun : Grammar.Unreleased (#[] : Grammar Char) (.primitive 0 (.pure (.int 1))) :=
    Grammar.only_primitive
  have hpart : (Parser.primitive 0 (.pure (.int 1))).applied (#[] : Grammar Char) #['a', 'b', 'c'] ∅
      0 {} = (.ok (.success (.int 1) 0), {}) := by
    cbv
  exact ⟨(atLeastOnce_of_zero_width hpart).eq (not_not.2 hun), (many_of_zero_width _ hpart).eq (not_not.2 hun)⟩

end GuardedParsing
