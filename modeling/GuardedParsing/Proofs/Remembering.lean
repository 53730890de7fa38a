import GuardedParsing.Proofs.Session
import GuardedParsing.Proofs.Termination

/-!
# The answers of a session

In a session in which no released rule was used, a question is answered with the value of the parser
in the least solution of the equations, whatever was asked, parsed, defined and released before, and
in whatever order. What is remembered is never changed, and a later definition does not make it
wrong.

* `acceptsEmpty_exact`: **the answers are the least solution, and so is what is remembered, now and
  at every later moment.**
-/

namespace GuardedParsing

variable {τ : Type} [Token τ]

namespace Session

variable {s s' : Session τ} {p : Parser τ}

/-- A step without the use of a released rule leaves no question open. -/
theorem Step.opened_eq {f : Option Fault} (h : Step s f s') (hf : f ≠ some .released) :
    s'.memory.opened = s.memory.opened := by
  cases h with
  | node | newRule | define | release => rfl
  | @ask p _ =>
    have hans := answers_ask s.grammar p s.memory
    rcases hr : (p.acceptsEmpty s.grammar s.memory).1 with fault | b
    · obtain rfl := hans.eq_released fault hr
      rw [hr] at hf
      exact absurd rfl hf
    · exact hans.opened_eq b hr
  | @parse p _ c =>
    obtain ⟨res, happ, hres⟩ := applies_parse s.grammar p c { memory := s.memory }
    refine happ.opened_eq ?_
    rintro rfl
    rw [hres] at hf
    exact hf rfl

/-- Without the use of a released rule, no question is ever left open. -/
theorem QuietlyReachable.opened_eq (h : s.QuietlyReachable) : s.memory.opened.keys = [] := by
  induction h with
  | refl => rfl
  | tail _ hstep ih =>
    obtain ⟨f, hf, hstep⟩ := hstep
    rw [hstep.opened_eq hf, ih]

/-- A step keeps what is remembered. -/
theorem Step.answers_eq {f : Option Fault} (h : Step s f s') {key : Key} {b : Bool}
    (hb : s.memory.answers[key]? = some b) : s'.memory.answers[key]? = some b := by
  cases h with
  | node | newRule | define | release => exact hb
  | ask hp => exact (answers_ask _ _ _).answers_eq hb
  | @parse p hp c =>
    obtain ⟨res, happ, -⟩ := applies_parse s.grammar p c { memory := s.memory }
    exact happ.preserves (P := fun a => a.memory.answers[key]? = some b) (D := fun _ => True)
      (fun _ _ _ _ => trivial) (fun _ _ _ ha => ha)
      (fun active part start next v a₀ a _ _ _ ha => by
        rw [memory_stopRepetition]
        exact (answers_ask _ _ _).answers_eq ha) (fun _ _ => trivial) hb

theorem Step.subset {f : Option Fault} (h : Step s f s') : s.nodes ⊆ s'.nodes := by
  cases h with
  | node => exact List.subset_append_left _ _
  | _ => exact fun _ => id

theorem Steps.answers_eq (h : Steps s s') {key : Key} {b : Bool}
    (hb : s.memory.answers[key]? = some b) : s'.memory.answers[key]? = some b := by
  induction h with
  | refl => exact hb
  | tail _ hstep ih =>
    obtain ⟨f, hstep⟩ := hstep
    exact hstep.answers_eq ih

theorem Steps.subset (h : Steps s s') : s.nodes ⊆ s'.nodes := by
  induction h with
  | refl => exact fun _ => id
  | tail _ hstep ih =>
    obtain ⟨f, hstep⟩ := hstep
    exact List.Subset.trans ih hstep.subset

/-- A plain or remembered answer is the same at every later moment. -/
theorem Steps.answer?_eq (h : Steps s s') {b : Bool} (hb : s.memory.answer? p = some b) :
    s'.memory.answer? p = some b := by
  unfold Memory.answer? at hb ⊢
  rcases Option.or_eq_some_iff.1 hb with hb | ⟨hnone, hb⟩
  · exact Option.or_eq_some_iff.2 (.inl hb)
  · exact Option.or_eq_some_iff.2 (.inr ⟨hnone, h.answers_eq hb⟩)

end Session

open Session in
/-- **The answers are the least solution.** In a session in which no released rule was used, every
question ends. It is answered with the value of the parser in the least solution of the equations,
or uses a released rule, which the parser then reaches. What is remembered stays what it is, and is
the value of the parser in the least solution at every later moment, with all the definitions that
were given until then. -/
theorem acceptsEmpty_exact {s : Session τ} (hs : s.QuietlyReachable) {p : Parser τ}
    (hp : p ∈ s.nodes) :
    (∃ n active, ∀ k ≥ n, (Machine.question p s.memory).runFor s.grammar #[] k =
      some ((p.acceptsEmpty s.grammar s.memory).1,
        .of active { memory := (p.acceptsEmpty s.grammar s.memory).2 })) ∧
    (∀ b, (p.acceptsEmpty s.grammar s.memory).1 = .ok b →
      (b = true ↔ s.written.leastSolution p)) ∧
    (∀ fault, (p.acceptsEmpty s.grammar s.memory).1 = .error fault →
      fault = .released ∧ ¬s.grammar.Unreleased p) ∧
    (s.grammar.Unreleased p → (s.written.leastSolution p ↔ s.grammar.leastSolution p)) ∧
    ∀ s', Steps s s' → ∀ b, s.memory.answer? p = some b →
      s'.memory.answer? p = some b ∧ (b = true ↔ s'.written.leastSolution p) := by
  have hvalid := hs.reachable.valid
  refine ⟨acceptsEmpty_ends _ _ _, fun b hb => ?_, fun fault hf => ?_, fun hun => ?_, ?_⟩
  · have hmeets := (sound_acceptsEmpty hvalid.keeps hvalid.pool hp hvalid.sound).2 b hb
    refine hmeets.iff fun q _ => ?_
    rw [hs.opened_eq]
    exact List.not_mem_nil
  · have hans := answers_ask s.grammar p s.memory
    refine ⟨hans.eq_released fault hf, fun hun => ?_⟩
    obtain ⟨b, hb⟩ := hans.exists_ok hun
    rw [hf] at hb
    cases hb
  · exact Grammar.leastSolution_congr hvalid.keeps hun
  · intro s' hs' b hb
    have hvalid' := Reachable.valid (hs.reachable.trans hs')
    have hb' := hs'.answer?_eq hb
    exact ⟨hb', (hvalid'.sound.settled hvalid'.pool (hs'.subset hp) hb').iff⟩

namespace Session

/-- A session with one rule, which is any number of itself. -/
def selfRepeating : Session Char where
  nodes := [.refer 0 0 true, .many 1 (.refer 0 0 true)]
  grammar := #[⟨"list", .bound (.many 1 (.refer 0 0 true))⟩]
  written := #[⟨"list", .bound (.many 1 (.refer 0 0 true))⟩]

theorem quietlyReachable_selfRepeating : selfRepeating.QuietlyReachable :=
  quietlyReachable_of_inOrder (by simp [InOrder, Parser.key, Parser.parts]) (by simp)

theorem unreleased_selfRepeating : selfRepeating.grammar.Unreleased (.refer 0 0 true) :=
  (quietlyReachable_selfRepeating.reachable.valid.closed (by simp [selfRepeating])
    (by simp [selfRepeating])).unreleased

end Session

open Session in
/-- The rule that is any number of itself accepts empty input. -/
theorem acceptsEmpty_exact_selfRepeating :
    selfRepeating.QuietlyReachable ∧ .refer 0 0 true ∈ selfRepeating.nodes ∧
      ((Parser.refer 0 0 true).acceptsEmpty selfRepeating.grammar selfRepeating.memory).1 =
        .ok true := by
  have hp : Parser.refer 0 0 true ∈ selfRepeating.nodes := .head _
  obtain ⟨-, hok, herror, -⟩ := acceptsEmpty_exact quietlyReachable_selfRepeating hp
  refine ⟨quietlyReachable_selfRepeating, hp, ?_⟩
  rcases hr : ((Parser.refer 0 0 true).acceptsEmpty selfRepeating.grammar
      selfRepeating.memory).1 with fault | b
  · exact absurd unreleased_selfRepeating (herror fault hr).2
  · have hleast : selfRepeating.written.leastSolution (.refer 0 0 true) :=
      Grammar.leastSolution_iff.2 (Grammar.leastSolution_iff.2 trivial)
    rw [(hok b hr).2 hleast]

end GuardedParsing
