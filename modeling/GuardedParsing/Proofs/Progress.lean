import GuardedParsing.Proofs.Application
import GuardedParsing.Proofs.Query

/-!
# What an application can end with

* `Applies.exists_ok`: a parser that reaches defined rules only gives an outcome; no fault breaks
  it off.
* `Applies.ne_released`: a parser that reaches no released rule is not broken off by one.
* `Applies.le`: a match never ends before it started.
* `Applies.preserves`: what the stops of repetitions preserve of an account, a parse preserves.
* `Applies.preserves_of_ne_released`: what answered questions preserve of a memory, a parse that no
  released rule breaks off preserves; so it leaves no question open (`Applies.opened_eq`).
* `applies_of_parse`: what a parse gives is the outcome of an application.
-/

namespace GuardedParsing

variable {τ : Type} [Token τ]

theorem map_eq_ok {ε α β : Type} {res : Except ε α} {f : α → β} {b : β} (h : res.map f = .ok b) :
    ∃ x, res = .ok x ∧ f x = b := by
  cases res with
  | error e => cases h
  | ok x => exact ⟨x, rfl, Except.ok.inj h⟩

namespace Outcome

variable {κ α β : Type}

theorem map_eq_success {out : Outcome κ α} {f : α → β} {w : β} {next : κ}
    (h : out.map f = .success w next) : ∃ v, out = .success v next ∧ f v = w := by
  cases out with
  | success v next' =>
    cases h
    exact ⟨v, rfl, rfl⟩
  | failure position e => cases h

/-- A match whose value was changed is a match. -/
theorem exists_eq_success_of_map {ε : Type} {res : Except ε (Outcome κ α)} {f : α → β} {w : β}
    {next : κ} (h : res.map (·.map f) = .ok (.success w next)) :
    ∃ v, res = .ok (.success v next) := by
  obtain ⟨out, rfl, hout⟩ := map_eq_ok h
  obtain ⟨v, rfl, -⟩ := map_eq_success hout
  exact ⟨v, rfl⟩

/-- If the first of two alternatives failed, a match is a match of the second one. -/
theorem eq_success_of_orElse {out out' : Outcome κ α} {v : α} {next : κ}
    (hout : out.isRecoverable = true) (h : out.orElse out' = .success v next) :
    out' = .success v next := by
  cases out with
  | success w next' => simp [isRecoverable] at hout
  | failure p₁ e₁ =>
    cases out' with
    | success w next' => exact h
    | failure p₂ e₂ =>
      simp only [orElse] at h
      split at h <;> cases h

end Outcome

/-- A match of a primitive does not end before it started. -/
theorem Primitive.le_of_apply {tokens : Array τ} {start next : Fin (tokens.size + 1)}
    {leaf : Primitive τ} {v : Value} (h : leaf.apply tokens start = .success v next) :
    start ≤ next := by
  cases leaf with
  | pure w => cases h; exact Fin.le_refl _
  | fail message => cases h
  | eof =>
    rw [apply] at h
    split at h <;> cases h
    exact Fin.le_refl _
  | satisfy expected accepts =>
    rw [apply] at h
    split at h
    · split at h <;> cases h
      exact Fin.le_def.2 (Nat.le_succ _)
    · cases h
  | oneOf accepted =>
    simp only [apply] at h
    split at h
    · split at h <;> cases h
      exact Fin.le_def.2 (Nat.le_succ _)
    · cases h

/-- A match of a node with one part is a match of the part, or consumes nothing where the node
accepts empty input whatever its part is. -/
theorem Modifier.settle_eq_success {n : Nat} {start next : Fin (n + 1)} {m : Modifier}
    {out : Outcome (Fin (n + 1)) Value} {v : Value} (h : m.settle start out = .success v next) :
    (m.acceptsEmpty? = some true ∧ next = start) ∨ ∃ w, out = .success w next := by
  cases out with
  | success w last =>
    cases m with
    | map f | labelled label | inContext note | optional => cases h; exact .inr ⟨_, rfl⟩
    | tryMap f =>
      simp only [settle] at h
      split at h <;> cases h
      exact .inr ⟨_, rfl⟩
    | not => cases h
  | failure position e =>
    cases m with
    | map f | tryMap f | inContext note => cases h
    | labelled label =>
      simp only [settle] at h
      split at h <;> cases h
    | optional | not =>
      simp only [settle] at h
      split at h <;> cases h
      exact .inl ⟨rfl, rfl⟩

omit [Token τ] in
/-- A stop of a repetition is not broken off where no released rule is reached. -/
theorem stopRepetition_eq_ok {g : Grammar τ} {part : Parser τ} (h : g.Unreleased part)
    (position : Nat) (a : Account) :
    ∃ b, part.acceptsEmpty g a.memory = (.ok b, (part.acceptsEmpty g a.memory).2) ∧
      part.stopRepetition g position a = (.ok (), ⟨(part.acceptsEmpty g a.memory).2,
        a.events.push (.stopped part.key position b)⟩) := by
  obtain ⟨b, hb⟩ := (answers_ask g part a.memory).exists_ok h
  have hq : part.acceptsEmpty g a.memory = (.ok b, (part.acceptsEmpty g a.memory).2) :=
    Prod.ext hb rfl
  refine ⟨b, hq, ?_⟩
  rw [Parser.stopRepetition, hq]

namespace Applies

variable {g : Grammar τ} {tokens : Array τ} {active : Guard} {p : Parser τ}
  {start : Fin (tokens.size + 1)} {a a' : Account} {res : Result tokens}

/-- A parser that reaches defined rules only gives an outcome. -/
theorem exists_ok (h : Applies g tokens active p start a res a') (hp : g.Closed p) :
    ∃ out, res = .ok out := by
  induction h with
  -- an outcome is there already
  | primitive | observed | sequenceNil | manyFatal | manyEnd | reentered | entered => exact ⟨_, rfl⟩
  | modified _ ih =>
    obtain ⟨out, rfl⟩ := ih (hp.part (.head _))
    exact ⟨_, rfl⟩
  | observedFault _ ih | orFirst _ _ ih | andFirst _ _ ih | sequenceFirst _ _ ih
  | manyFault _ ih => exact ih (hp.part (.head _))
  | orSecond _ _ _ _ ih | andSecond _ _ _ ih =>
    obtain ⟨out, rfl⟩ := ih (hp.part (.tail _ (.head _)))
    exact ⟨_, rfl⟩
  | sequenceNext _ _ _ ih =>
    obtain ⟨out, rfl⟩ := ih hp.tail
    exact ⟨_, rfl⟩
  | manyNext _ _ _ _ ih =>
    obtain ⟨out, rfl⟩ := ih hp
    exact ⟨_, rfl⟩
  | @manyStopped _ _ part start _ _ _ a' =>
    obtain ⟨b, -, hs⟩ := stopRepetition_eq_ok (Grammar.Closed.unreleased (hp.part (.head _))) start a'
    exact ⟨_, by rw [hs]; rfl⟩
  -- there is no rule without a definition
  | unset hb | released hb =>
    obtain ⟨d, hd⟩ := hp.binding
    simp [hb] at hd
  | enteredFault hb _ _ ih => exact ih (hp.definition hb)

/-- A parser that reaches no released rule is not broken off by one. -/
theorem ne_released (h : Applies g tokens active p start a res a') (hp : g.Unreleased p) :
    res ≠ .error .released := by
  have hmap : ∀ {α β : Type} {r : Except Fault α} {f : α → β},
      r ≠ .error .released → r.map f ≠ .error .released := by
    rintro α β (fault | x) f h
    · rintro ⟨⟩
      exact h rfl
    · exact nofun
  induction h with
  | primitive | observed | sequenceNil | manyFatal | manyEnd | reentered | entered => exact nofun
  | modified _ ih => exact hmap (ih (hp.part (.head _)))
  | observedFault _ ih | orFirst _ _ ih | andFirst _ _ ih | sequenceFirst _ _ ih
  | manyFault _ ih => exact ih (hp.part (.head _))
  | orSecond _ _ _ _ ih | andSecond _ _ _ ih => exact hmap (ih (hp.part (.tail _ (.head _))))
  | sequenceNext _ _ _ ih => exact hmap (ih hp.tail)
  | manyNext _ _ _ _ ih => exact hmap (ih hp)
  | @manyStopped _ _ part start _ _ _ a' =>
    obtain ⟨b, -, hs⟩ := stopRepetition_eq_ok (hp.part (.head _)) start a'
    rw [hs]
    exact nofun
  | unset => exact nofun
  | released hb => exact absurd hb hp.binding
  | enteredFault hb _ _ ih => exact ih (hp.definition hb)

/-- A match never ends before it started. -/
theorem le (h : Applies g tokens active p start a res a') :
    ∀ v next, res = .ok (.success v next) → start ≤ next := by
  induction h with
  | @primitive _ _ leaf start =>
    intro v next h
    exact leaf.le_of_apply (Except.ok.inj h)
  | @modified _ _ m _ start _ _ _ _ ih =>
    intro v next h
    obtain ⟨out, rfl, hout⟩ := map_eq_ok h
    rcases Modifier.settle_eq_success hout with ⟨-, rfl⟩ | ⟨w, rfl⟩
    · exact Fin.le_refl _
    · exact ih w next rfl
  | observed _ ih | orFirst _ _ ih | entered _ _ _ ih => exact ih
  | orSecond _ hout _ _ ih =>
    intro v next h
    obtain ⟨out', rfl, hor⟩ := map_eq_ok h
    exact ih v next (by rw [Outcome.eq_success_of_orElse hout hor])
  | andSecond _ _ ihp ihq | sequenceNext _ _ ihp ihq | manyNext _ _ _ ihp ihq =>
    intro w last h
    obtain ⟨u, rfl⟩ := Outcome.exists_eq_success_of_map h
    exact Fin.le_trans (ihp _ _ rfl) (ihq u last rfl)
  | andFirst _ hres | sequenceFirst _ hres => exact fun v next h => absurd ⟨v, next, h⟩ hres
  | sequenceNil | manyEnd =>
    rintro v next ⟨⟩
    exact Fin.le_refl _
  | manyStopped _ _ ih =>
    intro w last h
    obtain ⟨u, -, hu⟩ := map_eq_ok h
    cases hu
    exact ih _ _ rfl
  | _ => exact fun v next h => by cases h

/-- What the stops of repetitions preserve of an account, and what other events leave alone, an
application preserves. -/
theorem preserves {P : Account → Prop} {D : Parser τ → Prop}
    (hD : ∀ p q, D p → g.Leads p q → D q)
    (hnote : ∀ a e, (∀ part position b, e ≠ .stopped part position b) → P a → P (a.note e))
    (hstop : ∀ active part (start next : Fin (tokens.size + 1)) v a₀ a, D part →
      Applies g tokens active part start a₀ (.ok (.success v next)) a → ¬start < next → P a →
      P (part.stopRepetition g start a).2)
    (h : Applies g tokens active p start a res a') : (∀ q, g.Leads p q → D q) → P a → P a' := by
  -- `D` is asked of what a parser leads to: the rest of a sequence is no parser of its own
  have hbelow : ∀ {q}, D q → ∀ r, g.Leads q r → D r := fun hq r hr => hD _ r hq hr
  induction h with
  | primitive | sequenceNil | unset | released => exact fun _ h => h
  | modified _ ih | orFirst _ _ ih | andFirst _ _ ih | sequenceFirst _ _ ih | manyFault _ ih
  | manyFatal _ _ ih | manyEnd _ _ ih => exact fun hp h => ih (hbelow (hp _ (.part (.head _)))) h
  | @observed _ key name _ start _ out a' _ ih =>
    intro hp h
    refine hnote a' _ (fun _ _ _ => ?_) (ih (hbelow (hp _ (.part (.head _)))) ?_)
    · cases out <;> exact nofun
    · exact hnote _ _ (fun _ _ _ => nofun) h
  | observedFault _ ih =>
    exact fun hp h => ih (hbelow (hp _ (.part (.head _)))) (hnote _ _ (fun _ _ _ => nofun) h)
  | orSecond _ _ _ ihp ihq | andSecond _ _ ihp ihq =>
    intro hp h
    exact ihq (hbelow (hp _ (.part (.tail _ (.head _))))) (ihp (hbelow (hp _ (.part (.head _)))) h)
  | sequenceNext _ _ ihp ihps =>
    intro hp h
    exact ihps (fun r hr => hp r hr.tail) (ihp (hbelow (hp _ (.part (.head _)))) h)
  | manyNext _ _ _ ihp ihrest => exact fun hp h => ihrest hp (ihp (hbelow (hp _ (.part (.head _)))) h)
  | manyStopped hpart hlt ih =>
    intro hp h
    have hDpart := hp _ (.part (.head _))
    exact hstop _ _ _ _ _ _ _ hDpart hpart hlt (ih (hbelow hDpart) h)
  | reentered => exact fun _ h => hnote _ _ (fun _ _ _ => nofun) h
  | entered hb _ _ ih =>
    intro hp h
    exact hnote _ _ (fun _ _ _ => nofun)
      (ih (hbelow (hp _ (.definition hb))) (hnote _ _ (fun _ _ _ => nofun) h))
  | enteredFault hb _ _ ih =>
    exact fun hp h => ih (hbelow (hp _ (.definition hb))) (hnote _ _ (fun _ _ _ => nofun) h)

/-- What a question that is answered preserves of a memory, an application that no released rule
breaks off preserves. -/
theorem preserves_of_ne_released {P : Memory → Prop}
    (hask : ∀ (part : Parser τ) m b, (part.acceptsEmpty g m).1 = .ok b → P m →
      P (part.acceptsEmpty g m).2)
    (h : Applies g tokens active p start a res a') :
    res ≠ .error .released → P a.memory → P a'.memory := by
  have hmap : ∀ {α β : Type} {r : Except Fault α} {f : α → β},
      r.map f ≠ .error .released → r ≠ .error .released := by
    rintro α β r f h rfl
    exact h rfl
  induction h with
  | primitive | sequenceNil | unset | released | reentered => exact fun _ hP => hP
  | modified _ ih => exact fun h => ih (hmap h)
  | observed _ ih | entered _ _ _ ih => exact fun _ => ih (by simp)
  | manyFatal _ _ ih | manyEnd _ _ ih => exact fun _ => ih (by simp)
  | observedFault _ ih | orFirst _ _ ih | andFirst _ _ ih | sequenceFirst _ _ ih | manyFault _ ih
  | enteredFault _ _ _ ih => exact ih
  | orSecond _ _ _ ihp ihq | andSecond _ _ ihp ihq | sequenceNext _ _ ihp ihq
  | manyNext _ _ _ ihp ihq => exact fun h hP => ihq (hmap h) (ihp (by simp) hP)
  | @manyStopped _ _ part start _ v next a' _ _ ih =>
    intro h hP
    have hpart := hask part a'.memory
    rw [Parser.stopRepetition] at h ⊢
    rcases hr : part.acceptsEmpty g a'.memory with ⟨fault | b, m'⟩ <;> rw [hr] at h hpart
    · have hfault : (part.acceptsEmpty g a'.memory).1 = .error fault := by rw [hr]
      obtain rfl := (answers_ask g part a'.memory).eq_released fault hfault
      exact absurd rfl h
    · exact hpart b rfl (ih (by simp) hP)

/-- An application that no released rule breaks off leaves no question open. -/
theorem opened_eq (h : Applies g tokens active p start a res a') (hres : res ≠ .error .released) :
    a'.memory.opened = a.memory.opened :=
  h.preserves_of_ne_released (P := fun m => m.opened = a.memory.opened)
    (fun part m b hb hm => ((answers_ask g part m).opened_eq b hb).trans hm) hres rfl

end Applies

/-- What a parse gives is the outcome of an application, moved to the source that was read. -/
theorem applies_of_parse {g : Grammar τ} {p : Parser τ} {c : Cursor τ} {a : Account}
    {out : Outcome (Cursor τ) Value} (h : (p.parse g c a).1 = .ok out) :
    ∃ out', Applies g c.source.tokens ∅ p c.place a (.ok out') (p.parse g c a).2 ∧
      out = out'.mapPlace c.moveTo := by
  obtain ⟨res, happ, hres⟩ := applies_parse g p c a
  rw [hres] at h
  obtain ⟨out', rfl, rfl⟩ := map_eq_ok h
  exact ⟨out', happ, rfl⟩

end GuardedParsing
